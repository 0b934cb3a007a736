import SourceIndex.Proofs.Cache.Steps
import Mathlib.Data.List.Induction

/-!
# What the last clause says

A blueprint may have any clauses in any order, also several about one thing. The last one that
says something about it counts, and building does no more than what they say together.
-/

namespace SourceIndex

variable {ω σ κ υ α β : Type}

/-! ## What clauses say -/

namespace Clause

def level? : Clause ω → Option UInt8
  | verbosity level => some level
  | settings s => some s.verbosity
  | _ => none

def excludes? : Clause ω → Option Bool
  | excludeDeclarationsFromPch exclude => some exclude
  | settings s => some s.excludeDeclarationsFromPch
  | _ => none

/-- Settings always say something about this, by their own verbosity. -/
def displays? : Clause ω → Option Bool
  | displayDiagnostics display => some display
  | settings s => some (s.displayDiagnostics.getD (0 < s.verbosity))
  | _ => none

/-- Each option that is named sets its bit. -/
def options? : Clause ω → Option GlobalOptions
  | globalOptions options => some options
  | settings s =>
    let indexing : UInt32 := if .backgroundIndexing ∈ s.globalOptions then 1 else 0
    let editing : UInt32 := if .backgroundEditing ∈ s.globalOptions then 2 else 0
    if s.globalOptions = [] then none else some ⟨indexing ||| editing⟩
  | _ => none

def provider? : Clause ω → Option (ω → Path → List String)
  | provider own => some own
  | _ => none

def overlay? : Clause ω → Option (ω → List Buffer)
  | overlay own => some own
  | _ => none

def inbox? : Clause ω → Option InboxId
  | inbox own => some own
  | _ => none

/-- What the last clause says that says anything. -/
def last? (saying : Clause ω → Option α) (clauses : List (Clause ω)) : Option α :=
  clauses.reverse.findSome? saying

theorem last?_append_singleton (saying : Clause ω → Option α) (clauses : List (Clause ω))
    (clause : Clause ω) :
    last? saying (clauses ++ [clause]) = (saying clause).or (last? saying clauses) := by
  rw [last?, List.reverse_append, List.reverse_singleton, List.singleton_append,
    List.findSome?_cons]
  cases saying clause <;> rfl

/-! ## Names of options -/

/-- The same clause, or settings that name the same options in another order or more often. -/
inductive SameNames : Clause ω → Clause ω → Prop where
  | refl (clause : Clause ω) : SameNames clause clause
  | renamed (s : Settings) (options : List GlobalOption)
      (same : ∀ option, option ∈ s.globalOptions ↔ option ∈ options) :
      SameNames (settings s) (settings { s with globalOptions := options })

end Clause

namespace GlobalOptions

theorem ofOptions_append_singleton (options : List GlobalOption) (option : GlobalOption) :
    ofOptions (options ++ [option]) = (ofOptions options).union (ofOption option) := by
  simp [ofOptions]

theorem ofOptions_eq (options : List GlobalOption) :
    ofOptions options = ⟨(if .backgroundIndexing ∈ options then 1 else 0) |||
      (if .backgroundEditing ∈ options then 2 else 0)⟩ := by
  induction options using List.reverseRecOn with
  | nil => rfl
  | append_singleton options option ih =>
    rw [ofOptions_append_singleton, ih]
    by_cases indexing : .backgroundIndexing ∈ options <;>
      by_cases editing : .backgroundEditing ∈ options <;>
        cases option <;> simp [indexing, editing] <;> rfl

theorem ofOptions_congr {options others : List GlobalOption}
    (same : ∀ option, option ∈ options ↔ option ∈ others) :
    ofOptions options = ofOptions others := by
  simp only [ofOptions_eq, same]

end GlobalOptions

/-! ## Blueprints -/

namespace Blueprint

open Clause

theorem add_eq (plan : Blueprint ω) (clause : Clause ω) :
    plan.add clause = {
      provider := (provider? clause).or plan.provider
      overlay := (overlay? clause).or plan.overlay
      inbox := (inbox? clause).or plan.inbox
      verbosity := (level? clause).getD plan.verbosity
      excludeDeclarationsFromPch := (excludes? clause).getD plan.excludeDeclarationsFromPch
      displayDiagnostics := (displays? clause).or plan.displayDiagnostics
      globalOptions := (options? clause).or plan.globalOptions } := by
  cases clause with
  | settings s =>
    have named : options? (.settings s : Clause ω) =
        if s.globalOptions = [] then none else some (.ofOptions s.globalOptions) := by
      rw [GlobalOptions.ofOptions_eq]
      rfl
    rw [named, add, withSettings]
    by_cases unnamed : s.globalOptions = []
    · rw [if_pos unnamed, if_pos unnamed]
      rfl
    · rw [if_neg unnamed, if_neg unnamed]
      rfl
  | _ => rfl

theorem ofClauses_eq (clauses : List (Clause ω)) :
    ofClauses clauses = {
      provider := last? provider? clauses
      overlay := last? overlay? clauses
      inbox := last? inbox? clauses
      verbosity := (last? level? clauses).getD 0
      excludeDeclarationsFromPch := (last? excludes? clauses).getD false
      displayDiagnostics := last? displays? clauses
      globalOptions := last? options? clauses } := by
  induction clauses using List.reverseRecOn with
  | nil => rfl
  | append_singleton clauses clause ih =>
    have last : ofClauses (clauses ++ [clause]) = (ofClauses clauses).add clause := by
      simp [ofClauses]
    rw [last, add_eq, ih]
    simp only [last?_append_singleton, Option.getD_or]

/-! ## Building -/

/-- How the context is asked for. -/
def askedBy (clauses : List (Clause ω)) : ContextOptions where
  excludeDeclarationsFromPch := (last? excludes? clauses).getD false
  displayDiagnostics := (last? displays? clauses).getD (0 < (last? level? clauses).getD 0)

/-- What the cache works with from then on. -/
def setupBy (clauses : List (Clause ω)) (analyzer : Analyzer ω σ κ υ) : Setup ω σ κ υ where
  analyzer := analyzer
  provider := last? provider? clauses
  overlay := (last? overlay? clauses).getD fun _ => []
  inbox := last? inbox? clauses
  verbosity := (last? level? clauses).getD 0

theorem add_congr (plan : Blueprint ω) {clause clause' : Clause ω}
    (same : clause.SameNames clause') : plan.add clause' = plan.add clause := by
  cases same with
  | refl => rfl
  | renamed s options same =>
    have empty : options = [] ↔ s.globalOptions = [] := by
      simp only [List.eq_nil_iff_forall_not_mem, same]
    simp only [add, withSettings, Settings.displays, empty, GlobalOptions.ofOptions_congr same]

theorem ofClauses_congr {clauses clauses' : List (Clause ω)}
    (same : List.Forall₂ SameNames clauses clauses') : ofClauses clauses' = ofClauses clauses := by
  unfold ofClauses
  generalize (blank : Blueprint ω) = plan
  induction same generalizing plan with
  | nil => rfl
  | cons first _ ih => rw [List.foldl_cons, List.foldl_cons, add_congr plan first, ih]

theorem contextOptions_ofClauses (clauses : List (Clause ω)) :
    (ofClauses clauses).contextOptions = askedBy clauses := by
  rw [ofClauses_eq]
  rfl

theorem setup_ofClauses (clauses : List (Clause ω)) (analyzer : Analyzer ω σ κ υ) :
    (ofClauses clauses).setup analyzer = setupBy clauses analyzer := by
  rw [ofClauses_eq]
  rfl

theorem globalOptions_ofClauses (clauses : List (Clause ω)) :
    (ofClauses clauses).globalOptions = last? options? clauses := by
  rw [ofClauses_eq]

/-- What is done to build a cache by these clauses. -/
structure BuiltBy (clauses : List (Clause ω)) (analyzer : Analyzer ω σ κ υ) (world : ω)
    (s : AnalyzerState σ) (ran : Ran (AnalyzerState σ) (Effect κ υ)
      (Except SetupError (Cache ω σ κ υ))) : Prop where
  made : ∀ value inner,
    analyzer.createContext world (askedBy clauses) s.inner = (.value value, inner) →
      let context : Handle κ := ⟨s.contexts, value⟩
      let options := last? options? clauses
      ran = ⟨.ok (.ok ⟨setupBy clauses analyzer, some (.hold context), .empty⟩),
        (.createContext (askedBy clauses) (.value context) ::
          options.toList.map (.setGlobalOptions context)).map .call,
        ⟨options.elim inner fun options => analyzer.setGlobalOptions world value options inner,
          s.units, s.contexts + 1⟩⟩
  refused : ∀ message inner,
    analyzer.createContext world (askedBy clauses) s.inner = (.fault message, inner) →
      ran = ⟨.ok (.error (noContext message)),
        [.call (.createContext (askedBy clauses) (.fault message))],
        ⟨inner, s.units, s.contexts⟩⟩
  panicked : ∀ payload inner,
    analyzer.createContext world (askedBy clauses) s.inner = (.panic payload, inner) →
      ran = ⟨.error payload, [.call (.createContext (askedBy clauses) (.panic payload))],
        ⟨inner, s.units, s.contexts⟩⟩
  reordered : ∀ clauses', List.Forall₂ SameNames clauses clauses' →
    ran = ((ofClauses clauses').build analyzer world).run s

/-- However often and in whatever order things are said about a cache, it is built by what was said
last about each of them. -/
theorem built_by_last_clauses (clauses : List (Clause ω)) (analyzer : Analyzer ω σ κ υ)
    (world : ω) (s : AnalyzerState σ) :
    BuiltBy clauses analyzer world s (((ofClauses clauses).build analyzer world).run s) where
  made := by
    intro value inner answered
    rw [← contextOptions_ofClauses] at answered ⊢
    rw [run_build_of_value answered, setup_ofClauses, globalOptions_ofClauses]
  refused := by
    intro message inner answered
    rw [← contextOptions_ofClauses] at answered ⊢
    exact run_build_of_fault answered
  panicked := by
    intro payload inner answered
    rw [← contextOptions_ofClauses] at answered ⊢
    exact run_build_of_panic answered
  reordered := by
    intro clauses' same
    rw [ofClauses_congr same]

end Blueprint

end SourceIndex
