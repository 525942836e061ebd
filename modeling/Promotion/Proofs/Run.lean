import Promotion.Proofs.Inner
import Promotion.Proofs.Interning
import Promotion.Run
/-!
# What a run does

A run is a walk over a tree that changes under it: each class is promoted first, and the walk goes on in the promoted
class.  Two functions on the tree as it was before say what comes of this.  The module is left as if its classes had
been promoted bottom-up (`Module.promoteAll`), and the reports are those of promoting every class by itself, as it stood
at first, in the order of the listing (`Module.promoteClasses_eq`).  In particular the depth that a run starts with is
enough.

A run takes all class markers away (`Module.isNone_marker?_of_mem_promoteAll`), and on a module without class markers it
does nothing (`Module.promote_of_unmarked`), so a second run is idle, and a run that leaves the module as it was is one
that had nothing to report.
-/
namespace Promotion

variable {ν : Type}

/-! ## The walk's own listing of the classes -/

/-- The hook that lists the classes of a module, the last one first. -/
def noteClass (d : ClassDecl ν) : StateM (List (ClassDecl ν)) (Step (ClassDecl ν)) := do
  modify (d :: ·)
  return .enter

theorem ClassDecl.run_noteClass (d : ClassDecl ν) : ∀ s : List (ClassDecl ν),
    (d.visit (.onlyClass noteClass)).run s = (d, d.classDecls.foldl (fun s c => c :: s) s) := by
  induction d using ClassDecl.nested_induction with
  | step d ih =>
    intro s
    have hd := d.layout.run_visit ih (d :: s)
    rw [d.layout.replace_eq_self fun _ _ => rfl] at hd
    exact hd

theorem Module.classes_eq_classDecls (p : Module ν) : p.classes = p.classDecls := by
  have h : (Part.visit noteClass p).run [] = (Part.replace id p, p.classDecls.foldl (fun s c => c :: s) []) :=
    p.layout.run_visit (fun c _ => c.run_noteClass) []
  have hc : p.classes = ((Part.visit noteClass p).run []).2.reverse := rfl
  rw [hc, h, List.foldl_flip_cons_eq_append', List.append_nil, List.reverse_reverse]

/-! ## The walk that promotes -/

section Run

variable [DecidableEq ν] (r : Rules ν)

/-- What promoting a class reports. -/
def ClassDecl.report (d : ClassDecl ν) : ClassReport ν := (d.promote r).2

/-- The class with all the classes inside it promoted, and itself after them. -/
def ClassDecl.promoteAll (d : ClassDecl ν) : ClassDecl ν := d.mapUp fun d => (d.promote r).1

/-- The module with all its classes promoted, inner ones first. -/
def Module.promoteAll (p : Module ν) : Module ν := Part.mapUp (fun d => (d.promote r).1) p

/-- **Promoting the inner classes first is the same as promoting them in the promoted class.** -/
theorem ClassDecl.promoteAll_eq (d : ClassDecl ν) :
    d.promoteAll r = Part.replace (ClassDecl.promoteAll r) (d.promote r).1 := by
  calc d.promoteAll r
    _ = ((Part.mapUp (fun d => (d.promote r).1) d).promote r).1 := rfl
    _ = ((Part.replace (ClassDecl.promoteAll r) d).promote r).1 := by
      rw [d.layout.mapUp_eq_replace]
      rfl
    _ = Part.replace (ClassDecl.promoteAll r) (d.promote r).1 := ClassDecl.promote_replace _ r d

theorem promoter_eq_onlyClass : ∀ n, promoter r n = .onlyClass (promoter r n).onClass
  | 0 => rfl
  | _ + 1 => rfl

/-- **One class and all the classes inside it**: a walk that may go as deep as there are classes promotes them all, and
reports on each of them as it stood before. -/
theorem ClassDecl.run_promoter : ∀ (n : Nat) (d : ClassDecl ν), d.classDecls.length ≤ n →
    ∀ s, (d.visit (promoter r n)).run s = (d.promoteAll r, d.classDecls.foldl (fun s c => s.push (c.report r)) s)
  | 0, d, hd, s => absurd hd (Nat.not_succ_le_zero _)
  | n + 1, d, hd, s => by
    have hc := ClassDecl.classes_promote r d
    -- the walk enters the promoted class, and the classes in it are those that were in `d`
    have ih : ∀ c : ClassDecl ν, c.classDecls.Sublist (Part.classes (d.promote r).1) →
        ∀ s, (c.visit (.onlyClass (promoter r n).onClass)).run s =
          (c.promoteAll r, c.classDecls.foldl (fun s c => s.push (c.report r)) s) := by
      intro c hs
      rw [← promoter_eq_onlyClass]
      refine run_promoter n c ?_
      have hl := hs.length_le
      rw [hc] at hl
      exact Nat.le_trans hl (Nat.le_of_succ_le_succ hd)
    have h := (d.promote r).1.layout.run_visit ih (s.push (d.report r))
    rw [hc, ← ClassDecl.promoteAll_eq] at h
    have hv : (d.visit (promoter r (n + 1))).run s =
        ((d.promote r).1.descend (promoter r n)).run (s.push (d.report r)) := rfl
    rw [hv, promoter_eq_onlyClass]
    exact h

theorem Module.promoteAll_eq (p : Module ν) : p.promoteAll r = Part.replace (ClassDecl.promoteAll r) p :=
  p.layout.mapUp_eq_replace _

/-- **A run, said without the walk.** -/
theorem Module.promoteClasses_eq (p : Module ν) :
    p.promoteClasses r = (p.promoteAll r, p.classDecls.map (ClassDecl.report r)) := by
  have hv : p.visit (promoter r p.classes.length) = Part.visit (promoter r p.classes.length).onClass p := by
    rw [promoter_eq_onlyClass]
    exact Step.follow_enter _
  have hc : ∀ c : ClassDecl ν, c.classDecls.Sublist (Part.classes p) →
      ∀ s, (c.visit (.onlyClass (promoter r p.classes.length).onClass)).run s =
        (c.promoteAll r, c.classDecls.foldl (fun s c => s.push (c.report r)) s) := by
    intro c hs
    rw [← promoter_eq_onlyClass, Module.classes_eq_classDecls]
    exact c.run_promoter r _ hs.length_le
  have h := p.layout.run_visit hc #[]
  rw [← Module.promoteAll_eq, List.foldl_push_eq_append] at h
  unfold Module.promoteClasses
  rw [hv, h, Array.empty_append]
  rfl

/-! ## The report -/

/-- The outcome that a report on one class adds to the report of a run: that of a marked class. -/
def ClassReport.outcome? (c : ClassReport ν) : Option (Outcome ν) :=
  match c.result with
  | .ok o => if o.wasMarked then some o else none
  | .error _ => none

/-- The error that a report on one class adds to the report of a run. -/
def ClassReport.error? (c : ClassReport ν) : Option (NoConstructorError ν) :=
  match c.result with
  | .ok _ => none
  | .error e => some e

theorem Module.fst_promote (file : String) (p : Module ν) : (p.promote r file).1 = p.promoteAll r :=
  congrArg Prod.fst (Module.promoteClasses_eq r p)

theorem Module.outcomes_promote (file : String) (p : Module ν) :
    (p.promote r file).2.outcomes = p.classDecls.filterMap fun d => (d.report r).outcome? := by
  simp only [Module.promote, Module.promoteClasses_eq, List.filterMap_map]
  refine List.filterMap_congr fun d _ => ?_
  unfold ClassReport.outcome?
  rw [Function.comp_apply]
  cases (d.report r).result with
  | ok o => cases o <;> rfl
  | error e => rfl

theorem Module.errors_promote (file : String) (p : Module ν) :
    (p.promote r file).2.errors = p.classDecls.filterMap fun d => (d.report r).error? := by
  simp only [Module.promote, Module.promoteClasses_eq, List.filterMap_map]
  refine List.filterMap_congr fun d _ => ?_
  unfold ClassReport.error?
  rw [Function.comp_apply]
  cases (d.report r).result <;> rfl

theorem Module.events_promote (file : String) (p : Module ν) :
    (p.promote r file).2.events =
      .opened file :: (if r.settings.eligibility = .allParameters then [.allParametersDeprecated] else []) ++
        p.classDecls.flatMap (fun d => (d.report r).events) ++
        [.complete (p.promote r file).2.classCount (p.promote r file).2.propertyCount
          (p.promote r file).2.errors.length, .closed] := by
  simp only [Module.promote, Module.promoteClasses_eq, List.flatMap_map]
  rfl

theorem ClassDecl.promote_of_unmarked {r : Rules ν} {d : ClassDecl ν} (h : (d.marker? r.markers).isNone = true) :
    d.promote r = (d, ⟨.ok .untouched, []⟩) :=
  if_pos h

theorem ClassDecl.promote_of_ctor {r : Rules ν} {d : ClassDecl ν} {c : Ctor ν}
    (h : (d.marker? r.markers).isNone = false) (hc : d.ctor? = some c) :
    d.promote r = ((d.stripMarkers r.markers).mapCtor (·.promote r),
      ⟨.ok (.promoted (d.promoted r c)), c.params.filterMap (·.event? r d.name.name) ++
        [.applied d.name.name (d.promoted r c).properties.length (d.promoted r c).superCall]⟩) := by
  unfold ClassDecl.promote
  rw [h, hc]
  rfl

theorem ClassDecl.promote_of_noCtor {r : Rules ν} {d : ClassDecl ν} (h : (d.marker? r.markers).isNone = false)
    (hc : d.ctor? = none) :
    d.promote r = (d.stripMarkers r.markers, match r.settings.missingConstructor with
      | .ignore => ⟨.ok (.noConstructor d.name.name d.span), [.noConstructor d.name.name]⟩
      | .error => ⟨.error ⟨d.name.name, d.span⟩, []⟩) := by
  unfold ClassDecl.promote
  rw [h, hc]
  cases r.settings.missingConstructor <;> rfl

/-- A marked class adds one entry to the report of a run, another class none. -/
theorem ClassDecl.length_report (d : ClassDecl ν) :
    (d.report r).outcome?.toList.length + (d.report r).error?.toList.length =
      if (d.marker? r.markers).isSome then 1 else 0 := by
  cases h : d.marker? r.markers with
  | none =>
    rw [ClassDecl.report, ClassDecl.promote_of_unmarked (by rw [h]; rfl)]
    rfl
  | some e =>
    have hs : (d.marker? r.markers).isNone = false := by rw [h]; rfl
    cases hc : d.ctor? with
    | some c =>
      rw [ClassDecl.report, ClassDecl.promote_of_ctor hs hc]
      rfl
    | none =>
      rw [ClassDecl.report, ClassDecl.promote_of_noCtor hs hc]
      cases r.settings.missingConstructor <;> rfl

/-- **A run reports on every class of the module, at any depth, as it stood before the run, each once and in order**:
the outcomes are those of the marked classes that could be promoted, the errors those of the others. -/
theorem Module.promote_reports_each_class (file : String) (p : Module ν) :
    (p.promote r file).2.outcomes = p.classDecls.filterMap (fun d => (d.promote r).2.outcome?) ∧
    (p.promote r file).2.errors = p.classDecls.filterMap (fun d => (d.promote r).2.error?) ∧
    ∀ d ∈ p.classDecls, (d.promote r).2.outcome?.toList.length + (d.promote r).2.error?.toList.length =
      if (d.marker? r.markers).isSome then 1 else 0 :=
  ⟨Module.outcomes_promote r file p, Module.errors_promote r file p, fun d _ => d.length_report r⟩

/-! ## What is left to promote after a run -/

theorem Decorator.any_isMarker_strip (mk : Option ν) (ds : List (Decorator ν)) :
    (strip mk ds).any (·.isMarker mk) = false := by
  unfold Decorator.strip
  rw [List.any_eq_false]
  intro e he
  have := (List.mem_filter.1 he).2
  simpa using this

namespace ClassDecl

theorem isNone_marker?_eq_not_any (ms : Markers ν) (d : ClassDecl ν) :
    (d.marker? ms).isNone = !d.decorators.any (·.isMarker ms.onClass) := by
  unfold ClassDecl.marker?
  rw [← Option.not_isSome, List.isSome_find?]

theorem isNone_marker?_stripMarkers (ms : Markers ν) (d : ClassDecl ν) :
    ((d.stripMarkers ms).marker? ms).isNone = true := by
  rw [isNone_marker?_eq_not_any]
  exact congrArg (!·) (Decorator.any_isMarker_strip ms.onClass d.decorators)

theorem isNone_marker?_promote (d : ClassDecl ν) : ((d.promote r).1.marker? r.markers).isNone = true := by
  unfold ClassDecl.promote
  split
  · assumption
  · cases d.ctor? with
    | some c => exact isNone_marker?_stripMarkers r.markers d
    | none => cases r.settings.missingConstructor <;> exact isNone_marker?_stripMarkers r.markers d

/-- Promoting all classes leaves none of them marked. -/
theorem isNone_marker?_promoteAll (d : ClassDecl ν) : ((d.promoteAll r).marker? r.markers).isNone = true := by
  rw [promoteAll_eq, isNone_marker?_replace]
  exact isNone_marker?_promote r d

theorem classDecls_promoteAll (d : ClassDecl ν) :
    (d.promoteAll r).classDecls = d.classDecls.map (ClassDecl.promoteAll r) := by
  induction d using ClassDecl.nested_induction with
  | step d ih =>
    have h : Part.classes (d.promoteAll r) = (Part.classes d).map (ClassDecl.promoteAll r) := by
      rw [← classes_promote r d] at ih ⊢
      rw [promoteAll_eq]
      exact (d.promote r).1.layout.classes_replace ih
    exact congrArg (d.promoteAll r :: ·) h

theorem promoteAll_of_unmarked (d : ClassDecl ν) (hd : ∀ c ∈ d.classDecls, (c.marker? r.markers).isNone = true) :
    d.promoteAll r = d := by
  induction d using ClassDecl.nested_induction with
  | step d ih =>
    rw [promoteAll_eq, promote_of_unmarked (hd d List.mem_cons_self)]
    exact d.layout.replace_eq_self fun c hc => ih c hc fun e he => hd e (List.mem_cons_of_mem d (hc.subset he))

end ClassDecl

namespace Module

theorem classDecls_promoteAll (p : Module ν) :
    (p.promoteAll r).classDecls = p.classDecls.map (ClassDecl.promoteAll r) := by
  rw [promoteAll_eq]
  exact p.layout.classes_replace fun c _ => c.classDecls_promoteAll r

theorem promoteAll_of_unmarked (p : Module ν) (hp : ∀ c ∈ p.classDecls, (c.marker? r.markers).isNone = true) :
    p.promoteAll r = p := by
  rw [promoteAll_eq]
  exact p.layout.replace_eq_self fun c hc => c.promoteAll_of_unmarked r fun e he => hp e (hc.subset he)

theorem isNone_marker?_of_mem_promoteAll (p : Module ν) :
    ∀ c ∈ (p.promoteAll r).classDecls, (c.marker? r.markers).isNone = true := by
  intro c hc
  rw [classDecls_promoteAll] at hc
  obtain ⟨d, -, rfl⟩ := List.mem_map.1 hc
  exact d.isNone_marker?_promoteAll r

/-- A run reports something as soon as one class is marked. -/
theorem isNone_marker?_of_report_eq_nil {file : String} {p : Module ν} (ho : (p.promote r file).2.outcomes = [])
    (he : (p.promote r file).2.errors = []) : ∀ c ∈ p.classDecls, (c.marker? r.markers).isNone = true := by
  intro c hc
  rw [outcomes_promote, List.filterMap_eq_nil_iff] at ho
  rw [errors_promote, List.filterMap_eq_nil_iff] at he
  have hl := c.length_report r
  rw [ho c hc, he c hc] at hl
  cases hm : c.marker? r.markers with
  | none => rfl
  | some e =>
    rw [hm] at hl
    cases hl

/-- **A run over a module without marked classes does nothing and reports nothing.** -/
theorem promote_of_unmarked (file : String) (p : Module ν)
    (hp : ∀ c ∈ p.classDecls, (c.marker? r.markers).isNone = true) :
    (p.promote r file).1 = p ∧ (p.promote r file).2.outcomes = [] ∧ (p.promote r file).2.errors = [] := by
  rw [fst_promote, outcomes_promote, errors_promote]
  have hr : ∀ c ∈ p.classDecls, c.report r = ⟨.ok .untouched, []⟩ := fun c hc =>
    congrArg Prod.snd (ClassDecl.promote_of_unmarked (hp c hc))
  refine ⟨promoteAll_of_unmarked r p hp, ?_, ?_⟩
  · exact List.filterMap_eq_nil_iff.2 fun c hc => by rw [hr c hc]; rfl
  · exact List.filterMap_eq_nil_iff.2 fun c hc => by rw [hr c hc]; rfl

/-- **A run reports something if and only if it changes the module**: the classes that it reports on are those whose
marker it takes away, and no class without a marker changes. -/
theorem report_eq_nil_iff_unchanged (file : String) (p : Module ν) :
    ((p.promote r file).2.outcomes = [] ∧ (p.promote r file).2.errors = []) ↔ (p.promote r file).1 = p := by
  constructor
  · rintro ⟨ho, he⟩
    exact (promote_of_unmarked r file p (isNone_marker?_of_report_eq_nil r ho he)).1
  · intro h
    -- no class is marked after a run, and the module after the run is the module before it
    have hm := isNone_marker?_of_mem_promoteAll r p
    rw [← fst_promote r file p, h] at hm
    exact (promote_of_unmarked r file p hm).2

end Module

end Run

/-- In a class without class markers no plain decorator has the name of the class marker. -/
theorem ClassDecl.resolve_ne_of_unmarked {t : NameTable} {d : ClassDecl Symbol}
    (h : (d.marker? t.markers).isNone = true) {e : Decorator Symbol} (he : e ∈ d.decorators) {y : Symbol}
    (hy : e.bareName = some y) : t.resolve y ≠ .ok classMarkerName := by
  intro hr
  have hf : t.markers.onClass = some y := (t.resolve_eq_ok_iff y _).1 hr
  have hm : e.isMarker t.markers.onClass = true := by simp [Decorator.isMarker, hf, hy]
  exact List.find?_eq_none.1 (Option.isNone_iff_eq_none.1 h) e he hm

/-- **A run is one-shot**: it leaves no class with a class marker, whatever became of the class, and a second run, under
whatever settings, changes nothing and reports nothing. -/
theorem Module.second_promote_does_nothing (t : NameTable) (s₁ s₂ : Settings) (file₁ file₂ : String)
    (p : Module Symbol) :
    let p₁ := (p.promote (s₁.rules t) file₁).1
    (∀ d ∈ p₁.classDecls, ∀ e ∈ d.decorators, ∀ y, e.bareName = some y → t.resolve y ≠ .ok classMarkerName) ∧
    (p₁.promote (s₂.rules t) file₂).1 = p₁ ∧
    (p₁.promote (s₂.rules t) file₂).2.outcomes = [] ∧ (p₁.promote (s₂.rules t) file₂).2.errors = [] := by
  intro p₁
  have h : ∀ d ∈ p₁.classDecls, (d.marker? t.markers).isNone = true := by
    intro d hd
    rw [show p₁ = p.promoteAll (s₁.rules t) from Module.fst_promote _ file₁ p] at hd
    exact Module.isNone_marker?_of_mem_promoteAll (s₁.rules t) p d hd
  exact ⟨fun d hd e he y hy => ClassDecl.resolve_ne_of_unmarked (h d hd) he hy,
    Module.promote_of_unmarked (s₂.rules t) file₂ p₁ h⟩

end Promotion
