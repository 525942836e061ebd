import Promotion.Proofs.Naming
/-!
# Marked classes without a constructor

Whether such a class is an outcome or an error is a matter of the report alone.  Promoting a class leaves the same class
under both settings, and what it reports under one follows from what it reports under the other: an outcome that tells
of a missing constructor becomes an error about the same class, and every other outcome stays
(`ClassDecl.promote_error`).  The report of a run is made of these.
-/
namespace Promotion

variable {ν : Type}

namespace Outcome

def isNoConstructor : Outcome ν → Bool
  | noConstructor .. => true
  | _ => false

/-- The error that stands for the outcome where a missing constructor is one. -/
def error? : Outcome ν → Option (NoConstructorError ν)
  | noConstructor c s => some ⟨c, s⟩
  | _ => none

theorem error?_eq_some_iff {o : Outcome ν} {e : NoConstructorError ν} :
    o.error? = some e ↔ o = .noConstructor e.className e.span := by
  cases o <;> cases e <;> simp [error?]

theorem isNoConstructor_eq (o : Outcome ν) : o.isNoConstructor = o.error?.isSome := by
  cases o <;> rfl

/-- The outcomes that tell of a missing constructor, one by one, and the errors that stand for them. -/
theorem forall₂_error? (os : List (Outcome ν)) :
    List.Forall₂ (fun o e => o = .noConstructor e.className e.span) (os.filter isNoConstructor)
      (os.filterMap error?) := by
  rw [List.filter_congr fun o _ => o.isNoConstructor_eq]
  exact (forall₂_filterMap error? os).imp fun o e => error?_eq_some_iff.1

end Outcome

/-! ## One class -/

section Run

variable [DecidableEq ν] (e : Eligibility) (ms : Markers ν)

namespace ClassDecl

/-- What the two settings make of one class. -/
theorem promote_error (d : ClassDecl ν) :
    (d.promote ⟨⟨e, .error⟩, ms⟩).1 = (d.promote ⟨⟨e, .ignore⟩, ms⟩).1 ∧
    (d.report ⟨⟨e, .ignore⟩, ms⟩).error? = none ∧
    (d.report ⟨⟨e, .error⟩, ms⟩).outcome? =
      (d.report ⟨⟨e, .ignore⟩, ms⟩).outcome?.filter (!·.isNoConstructor) ∧
    (d.report ⟨⟨e, .error⟩, ms⟩).error? = (d.report ⟨⟨e, .ignore⟩, ms⟩).outcome?.bind Outcome.error? := by
  unfold ClassDecl.report
  cases h : (d.marker? ms).isNone with
  | true =>
    rw [promote_of_unmarked (r := ⟨⟨e, .error⟩, ms⟩) h, promote_of_unmarked (r := ⟨⟨e, .ignore⟩, ms⟩) h]
    exact ⟨rfl, rfl, rfl, rfl⟩
  | false =>
    cases hc : d.ctor? with
    | some c =>
      rw [promote_of_ctor (r := ⟨⟨e, .error⟩, ms⟩) h hc, promote_of_ctor (r := ⟨⟨e, .ignore⟩, ms⟩) h hc]
      exact ⟨rfl, rfl, rfl, rfl⟩
    | none =>
      rw [promote_of_noCtor (r := ⟨⟨e, .error⟩, ms⟩) h hc, promote_of_noCtor (r := ⟨⟨e, .ignore⟩, ms⟩) h hc]
      exact ⟨rfl, rfl, rfl, rfl⟩

end ClassDecl

/-! ## A run -/

namespace Module

theorem fst_promote_error (file : String) (p : Module ν) :
    (p.promote ⟨⟨e, .error⟩, ms⟩ file).1 = (p.promote ⟨⟨e, .ignore⟩, ms⟩ file).1 := by
  rw [fst_promote, fst_promote, promoteAll, promoteAll]
  exact congrArg (Part.mapUp · p) (funext fun d => (d.promote_error e ms).1)

theorem errors_promote_ignore (file : String) (p : Module ν) : (p.promote ⟨⟨e, .ignore⟩, ms⟩ file).2.errors = [] := by
  rw [errors_promote]
  exact List.filterMap_eq_nil_iff.2 fun d _ => (d.promote_error e ms).2.1

theorem outcomes_promote_error (file : String) (p : Module ν) :
    (p.promote ⟨⟨e, .error⟩, ms⟩ file).2.outcomes =
      (p.promote ⟨⟨e, .ignore⟩, ms⟩ file).2.outcomes.filter (!·.isNoConstructor) := by
  rw [outcomes_promote, outcomes_promote, List.filter_filterMap]
  exact List.filterMap_congr fun d _ => (d.promote_error e ms).2.2.1

theorem errors_promote_error (file : String) (p : Module ν) :
    (p.promote ⟨⟨e, .error⟩, ms⟩ file).2.errors =
      (p.promote ⟨⟨e, .ignore⟩, ms⟩ file).2.outcomes.filterMap Outcome.error? := by
  rw [errors_promote, outcomes_promote, List.filterMap_filterMap]
  exact List.filterMap_congr fun d _ => (d.promote_error e ms).2.2.2

end Module

end Run

/-- **What to do about a missing constructor is a matter of the report alone.**  A run that makes it an error leaves the
same module as a run that does not, and reports the same outcomes but for those that tell of a missing constructor.  In
their place, and in their order, it has errors with the names and the spans of their classes. -/
theorem Module.promote_missing_constructor (t : NameTable) (e : Eligibility) (file : String) {p : Module Symbol}
    {q : Module String} (h : p.mapNames t.resolve = .ok q) :
    let ignoring := p.promote (Settings.rules ⟨e, .ignore⟩ t) file
    let failing := p.promote (Settings.rules ⟨e, .error⟩ t) file
    failing.1 = ignoring.1 ∧ ignoring.2.errors = [] ∧
    failing.2.outcomes = ignoring.2.outcomes.filter (!·.isNoConstructor) ∧
    ∃ errors : List (NoConstructorError String),
      failing.2.errors.mapM (NoConstructorError.mapNames t.resolve) = .ok errors ∧
      List.Forall₂ (fun o e => ∃ y, o = .noConstructor y e.span ∧ t.resolve y = .ok e.className)
        (ignoring.2.outcomes.filter (·.isNoConstructor)) errors := by
  intro ignoring failing
  have hr := (Module.promote_named (Settings.rules_named ⟨e, .error⟩ t) h file).2
  have he := (Report.mapNames_eq_ok_iff.1 hr).2.2.1
  refine ⟨Module.fst_promote_error e t.markers file p, Module.errors_promote_ignore e t.markers file p,
    Module.outcomes_promote_error e t.markers file p, _, mapM_eq_ok_iff.2 he, ?_⟩
  have ho : List.Forall₂ _ (ignoring.2.outcomes.filter (·.isNoConstructor)) failing.2.errors :=
    Module.errors_promote_error e t.markers file p ▸ Outcome.forall₂_error? ignoring.2.outcomes
  refine forall₂_trans (fun o e e' ho he => ?_) ho he
  obtain ⟨hn, hs⟩ := NoConstructorError.mapNames_eq_ok_iff.1 he
  exact ⟨e.className, hs ▸ ho, hn⟩

/-- The class that fails has a class in one of its fields, and that one is promoted. -/
theorem Module.promote_missing_constructor_ofName :
    let y : Symbol := ⟨2, by decide⟩
    let p := Module.ofName y []
    let ignoring := p.promote (Settings.rules ⟨.allParameters, .ignore⟩ .ofMarkerNames) ""
    let failing := p.promote (Settings.rules ⟨.allParameters, .error⟩ .ofMarkerNames) ""
    p.mapNames NameTable.ofMarkerNames.resolve = .ok (Module.ofName classMarkerName []) ∧
    failing.2.outcomes = [.promoted ⟨y, default, [y], none, []⟩] ∧
    failing.1 = ignoring.1 ∧ ignoring.2.errors = [] ∧
    failing.2.outcomes = ignoring.2.outcomes.filter (!·.isNoConstructor) ∧
    ∃ errors : List (NoConstructorError String),
      failing.2.errors.mapM (NoConstructorError.mapNames NameTable.ofMarkerNames.resolve) = .ok errors ∧
      List.Forall₂ (fun o e => ∃ y, o = .noConstructor y e.span ∧
        NameTable.ofMarkerNames.resolve y = .ok e.className) (ignoring.2.outcomes.filter (·.isNoConstructor)) errors :=
  ⟨rfl, by rw [Settings.rules, NameTable.markers_ofMarkerNames]; rfl,
    Module.promote_missing_constructor .ofMarkerNames .allParameters "" rfl⟩

end Promotion
