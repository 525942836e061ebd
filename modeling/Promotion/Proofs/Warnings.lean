import Promotion.Diagnostic.Basic
import Promotion.Proofs.Naming
/-!
# What is left marked is warned of

In a marked class promotion takes the markers from the parameters that it can promote and leaves them on those that it
cannot, so what is left marked in the class says what was skipped (`Param.isMarked_promote`).  A run skips in each class
the parameters that stand marked in that class after the run, in their order (`Module.skipped_rel_leftMarked`), and its
warnings are about these and no others.
-/
namespace Promotion

variable {ν : Type}

/-- The parameters of the first constructor of a class. -/
def ClassDecl.ctorParams (d : ClassDecl ν) : List (Param ν) := (d.ctor?.map (·.params)).getD []

/-- The entry `k` of a report tells of the parameter `x` of the class `d`. -/
structure Skipped.Of (d : ClassDecl ν) (x : Param ν) (k : Skipped ν) : Prop where
  className : k.className = d.name.name
  shape : x.pattern.shape? = some k.shape
  span : k.span = x.span

/-! ## One parameter -/

theorem Param.isNone_shape? (x : Param ν) : x.pattern.shape?.isNone = x.ident?.isSome := by
  obtain ⟨ds, p, v, s⟩ := x
  cases p <;> rfl

section Promotion

variable [DecidableEq ν] (r : Rules ν)

namespace Param

theorem shape?_of_promoted? {x : Param ν} {id : Ident ν} (h : x.promoted? r = some id) : x.pattern.shape? = none := by
  have hi := x.isNone_shape?
  unfold Param.promoted? at h
  split at h
  · rw [h] at hi
    exact Option.isNone_iff_eq_none.1 hi
  · cases h

/-- **A parameter is marked after promotion if and only if it was skipped.** -/
theorem isMarked_promote (x : Param ν) : (x.promote r).isMarked r.markers = (x.skipped? r).isSome := by
  unfold Param.promote Param.skipped?
  cases hp : x.promoted? r with
  | some id =>
    -- a promoted parameter binds a name, and one that binds a name is not skipped
    rw [shape?_of_promoted? r hp, ite_self]
    exact Decorator.any_isMarker_strip r.markers.onParam x.decorators
  | none =>
    have hi := x.isNone_shape?
    cases hm : x.isMarked r.markers with
    | false => exact hm
    | true =>
      have hx : x.ident? = none := by simpa [Param.promoted?, hm] using hp
      rw [hx, Option.isSome_none, ← Option.not_isSome, Bool.not_eq_false'] at hi
      exact hm.trans hi.symm

theorem shape?_of_skipped? {x : Param ν} {shape : Shape} (h : x.skipped? r = some shape) :
    x.pattern.shape? = some shape := by
  unfold Param.skipped? at h
  split at h
  · exact h
  · cases h

theorem pattern_promote (x : Param ν) : (x.promote r).pattern = x.pattern := by
  unfold Param.promote
  split <;> rfl

theorem span_promote (x : Param ν) : (x.promote r).span = x.span := by
  unfold Param.promote
  split <;> rfl

variable (g : ClassDecl ν → ClassDecl ν)

theorem shape?_replace_promote (x : Param ν) : (Part.replace g (x.promote r)).pattern.shape? = x.pattern.shape? := by
  rw [pattern_replace, Pattern.shape?_replace, pattern_promote]

theorem span_replace_promote (x : Param ν) : (Part.replace g (x.promote r)).span = x.span := by
  rw [span_replace, span_promote]

end Param

/-! ## One class -/

namespace ClassDecl

theorem name_promote (d : ClassDecl ν) : (d.promote r).1.name = d.name := by
  unfold ClassDecl.promote
  split
  · rfl
  · cases d.ctor? <;> cases r.settings.missingConstructor <;> rfl

theorem span_promote (d : ClassDecl ν) : (d.promote r).1.span = d.span := by
  unfold ClassDecl.promote
  split
  · rfl
  · cases d.ctor? <;> cases r.settings.missingConstructor <;> rfl

theorem name_promoteAll (d : ClassDecl ν) : (d.promoteAll r).name = d.name := by
  rw [promoteAll_eq, name_replace, name_promote]

theorem span_promoteAll (d : ClassDecl ν) : (d.promoteAll r).span = d.span := by
  rw [promoteAll_eq, span_replace, span_promote]

variable {r}

theorem ctor?_promote {d : ClassDecl ν} (h : (d.marker? r.markers).isNone = false) :
    (d.promote r).1.ctor? = d.ctor?.map (·.promote r) := by
  cases hc : d.ctor? with
  | some c =>
    rw [promote_of_ctor h hc]
    exact (Member.ctor?_mapCtor _ _).trans (congrArg (Option.map _) hc)
  | none =>
    rw [promote_of_noCtor h hc]
    exact hc

/-- The parameters of a marked class after a run: each is promoted, and the classes inside it are. -/
theorem ctorParams_promoteAll {d : ClassDecl ν} (h : (d.marker? r.markers).isNone = false) :
    (d.promoteAll r).ctorParams = d.ctorParams.map fun x => Part.replace (ClassDecl.promoteAll r) (x.promote r) := by
  unfold ClassDecl.ctorParams
  rw [promoteAll_eq, ctor?_replace, ctor?_promote h]
  cases d.ctor? with
  | none => rfl
  | some c =>
    obtain ⟨ps, ⟨ss, s⟩, t⟩ := c
    simp only [Option.map_some, Option.getD_some, Ctor.promote, Ctor.replace_mk, List.map_map, Function.comp_def]

theorem skipped_report {d : ClassDecl ν} (h : (d.marker? r.markers).isNone = false) :
    (d.report r).outcome?.toList.flatMap Outcome.skipped =
      d.ctorParams.filterMap fun x => (x.skipped? r).map fun shape => ⟨d.name.name, shape, x.span⟩ := by
  unfold ClassDecl.report ClassDecl.ctorParams
  cases hc : d.ctor? with
  | some c =>
    rw [promote_of_ctor h hc]
    exact List.append_nil _
  | none =>
    rw [promote_of_noCtor h hc]
    cases r.settings.missingConstructor <;> rfl

/-- **What is left marked in a marked class is what was skipped in it**, one by one and in order. -/
theorem skipped_rel_ctorParams {d : ClassDecl ν} (h : (d.marker? r.markers).isNone = false) :
    List.Forall₂ (Skipped.Of (d.promoteAll r)) ((d.promoteAll r).ctorParams.filter (·.isMarked r.markers))
      ((d.report r).outcome?.toList.flatMap Outcome.skipped) := by
  rw [skipped_report h, ctorParams_promoteAll h, List.filter_map, List.forall₂_map_left_iff]
  have hm : ∀ x ∈ d.ctorParams, ((·.isMarked r.markers) ∘ fun x => Part.replace (promoteAll r) (x.promote r)) x =
      ((x.skipped? r).map fun shape => Skipped.mk d.name.name shape x.span).isSome := fun x _ => by
    rw [Function.comp_apply, Param.isMarked_replace, Param.isMarked_promote, Option.isSome_map]
  rw [List.filter_congr hm]
  refine (forall₂_filterMap _ d.ctorParams).imp fun x k hk => ?_
  obtain ⟨shape, hs, rfl⟩ := Option.map_eq_some_iff.1 hk
  exact ⟨congrArg Ident.name (d.name_promoteAll r).symm, (Param.shape?_replace_promote r _ x).trans
    (Param.shape?_of_skipped? r hs), (Param.span_replace_promote r _ x).symm⟩

/-- In a marked class no parameter that binds a single name is left marked. -/
theorem isMarked_of_mem_ctorParams {d : ClassDecl ν} (h : (d.marker? r.markers).isNone = false) {x : Param ν}
    (hx : x ∈ (d.promoteAll r).ctorParams) (hs : x.pattern.shape? = none) : x.isMarked r.markers = false := by
  rw [ctorParams_promoteAll h] at hx
  obtain ⟨y, -, rfl⟩ := List.mem_map.1 hx
  rw [Param.shape?_replace_promote] at hs
  rw [Param.isMarked_replace, Param.isMarked_promote, Param.skipped?, hs, ite_self]
  rfl

theorem of_error?_report {d : ClassDecl ν} {e : NoConstructorError ν} (h : (d.report r).error? = some e) :
    (d.marker? r.markers).isNone = false ∧ d.ctor? = none ∧ e = ⟨d.name.name, d.span⟩ := by
  unfold ClassDecl.report at h
  cases hm : (d.marker? r.markers).isNone with
  | true =>
    rw [promote_of_unmarked hm] at h
    cases h
  | false =>
    refine ⟨rfl, ?_⟩
    cases hc : d.ctor? with
    | some c =>
      rw [promote_of_ctor hm hc] at h
      cases h
    | none =>
      refine ⟨rfl, ?_⟩
      rw [promote_of_noCtor hm hc] at h
      cases hs : r.settings.missingConstructor with
      | ignore =>
        rw [hs] at h
        cases h
      | error =>
        rw [hs] at h
        exact (Option.some.inj h).symm

end ClassDecl

end Promotion

/-! ## A run, in text -/

/-- Whether one of the decorators is the plain name `n`. -/
def Decorator.mention (n : String) (ds : List (Decorator String)) : Bool := ds.any (·.bareName = some n)

theorem Decorator.any_isMarker_some (n : String) (ds : List (Decorator String)) :
    ds.any (·.isMarker (some n)) = mention n ds := by
  refine congrArg (List.any ds) (funext fun e => ?_)
  unfold Decorator.isMarker
  cases e.bareName with
  | none => rfl
  | some n' => simp [eq_comm]

theorem ClassDecl.isNone_marker?_textRules (s : Settings) (d : ClassDecl String) :
    (d.marker? s.textRules.markers).isNone = !Decorator.mention classMarkerName d.decorators := by
  rw [ClassDecl.isNone_marker?_eq_not_any, ← Decorator.any_isMarker_some]
  rfl

theorem Param.isMarked_textRules (s : Settings) (x : Param String) :
    x.isMarked s.textRules.markers = Decorator.mention paramMarkerName x.decorators :=
  Decorator.any_isMarker_some paramMarkerName x.decorators

/-- The parameters of the first constructor of `d'` that carry the parameter marker, if `d` carries the class marker. -/
def ClassDecl.leftMarked (d d' : ClassDecl String) : List (ClassDecl String × Param String) :=
  if Decorator.mention classMarkerName d.decorators then
    (d'.ctorParams.filter (Decorator.mention paramMarkerName ·.decorators)).map (d', ·)
  else []

/-- The parameters that carry the parameter marker in `p'`, in the first constructor of a class that carries the class
marker in `p`, each with its class.  The classes of `p` and `p'` go together by their places in the listing. -/
def Module.leftMarked (p p' : Module String) : List (ClassDecl String × Param String) :=
  (p.classDecls.zip p'.classDecls).flatMap fun c => c.1.leftMarked c.2

section Text

variable (s : Settings) (q : Module String)

theorem Module.zip_promoteAll : q.classDecls.zip (q.promoteAll s.textRules).classDecls =
    q.classDecls.map fun d => (d, d.promoteAll s.textRules) := by
  rw [Module.classDecls_promoteAll, List.map_prod_left_eq_zip]

theorem ClassDecl.skipped_rel_leftMarked (d : ClassDecl String) :
    List.Forall₂ (fun m k => Skipped.Of m.1 m.2 k) (d.leftMarked (d.promoteAll s.textRules))
      ((d.report s.textRules).outcome?.toList.flatMap Outcome.skipped) := by
  have hm := d.isNone_marker?_textRules s
  unfold ClassDecl.leftMarked
  cases hd : Decorator.mention classMarkerName d.decorators with
  | false =>
    rw [hd] at hm
    rw [ClassDecl.report, ClassDecl.promote_of_unmarked hm]
    exact .nil
  | true =>
    rw [hd] at hm
    have hs := ClassDecl.skipped_rel_ctorParams hm
    rw [List.filter_congr fun x _ => x.isMarked_textRules s] at hs
    exact List.forall₂_map_left_iff.2 hs

/-- **A run skips the parameters that it leaves marked**, one by one and in order. -/
theorem Module.skipped_rel_leftMarked (file : String) :
    List.Forall₂ (fun m k => Skipped.Of m.1 m.2 k) (q.leftMarked (q.promoteAll s.textRules))
      (q.promote s.textRules file).2.skipped := by
  unfold Module.leftMarked Report.skipped
  rw [Module.zip_promoteAll, Module.outcomes_promote, List.filterMap_eq_flatMap_toList, List.flatMap_assoc,
    List.flatMap_map]
  refine List.rel_flatMap (List.forall₂_same.2 fun d _ => rfl : List.Forall₂ (· = ·) _ _) ?_
  rintro d _ rfl
  exact d.skipped_rel_leftMarked s

end Text

/-! ## Diagnostics -/

namespace Diagnostic

/-- The diagnostic `x` tells of the error `e`, that a marked class of `p` has no constructor. -/
structure FailureOf (p : Module String) (file : UInt64) (e : NoConstructorError String) (x : Diagnostic) : Prop where
  severity : x.severity = .error
  code : x.code = "PP0001"
  file_eq : x.file = file
  message : x.message = "Class '" ++ e.className ++ "' is marked with @paramProperties but has no constructor"
  ofClass : ∃ d ∈ p.classDecls, Decorator.mention classMarkerName d.decorators = true ∧ d.ctor? = none ∧
    d.name.name = e.className ∧ d.span = e.span ∧ x.span = d.span

/-- The diagnostic `w` warns of the parameter `x` of the class `d`. -/
structure WarningOf (file : UInt64) (d : ClassDecl String) (x : Param String) (w : Diagnostic) : Prop where
  severity : w.severity = .warning
  code : w.code = "PP0002"
  file_eq : w.file = file
  span : w.span = x.span
  message : ∃ shape, x.pattern.shape? = some shape ∧
    w.message = "@pp has no effect on a " ++ shape.text ++ " in class '" ++ d.name.name ++ "'"

theorem failureOf_ofNoConstructor {s : Settings} {file : String} {p : Module String} {e : NoConstructorError String}
    (he : e ∈ (p.promote s.textRules file).2.errors) (n : UInt64) : FailureOf p n e (ofNoConstructor e n) := by
  rw [Module.errors_promote] at he
  obtain ⟨d, hd, he⟩ := List.mem_filterMap.1 he
  obtain ⟨hm, hc, rfl⟩ := ClassDecl.of_error?_report he
  rw [ClassDecl.isNone_marker?_textRules, Bool.not_eq_false'] at hm
  exact ⟨rfl, rfl, rfl, rfl, d, hd, hm, hc, rfl, rfl, rfl⟩

theorem warningOf_ofSkipped {d : ClassDecl String} {x : Param String} {k : Skipped String} (h : k.Of d x) (n : UInt64) :
    WarningOf n d x (ofSkipped k n) :=
  ⟨rfl, rfl, rfl, h.span, k.shape, h.shape, h.className ▸ rfl⟩

end Diagnostic

/-- **No marked parameter is dropped in silence.**  The diagnostics of a run are its errors, and then one warning for
each parameter that is left with its marker in a class that was marked, in the order of the classes and of the
parameters.  A parameter of such a class that binds a single name is never left with its marker. -/
theorem Module.promote_warns_of_what_is_left (t : NameTable) (s : Settings) (file : String) (n : UInt64)
    {p : Module Symbol} {q : Module String} (h : p.mapNames t.resolve = .ok q) :
    ∃ (q' : Module String) (R : Report String) (errors warnings : List Diagnostic),
      (p.promote (s.rules t) file).1.mapNames t.resolve = .ok q' ∧
      (p.promote (s.rules t) file).2.mapNames t.resolve = .ok R ∧
      List.Forall₂ (fun d d' => d'.name = d.name ∧ d'.span = d.span) q.classDecls q'.classDecls ∧
      R.diagnostics n = errors ++ warnings ∧
      List.Forall₂ (Diagnostic.FailureOf q n) R.errors errors ∧
      List.Forall₂ (fun m w => Diagnostic.WarningOf n m.1 m.2 w) (q.leftMarked q') warnings ∧
      ∀ d d', (d, d') ∈ q.classDecls.zip q'.classDecls → Decorator.mention classMarkerName d.decorators = true →
        ∀ x ∈ d'.ctorParams, ∀ id, x.pattern = .ident id →
          Decorator.mention paramMarkerName x.decorators = false := by
  obtain ⟨hp, hR⟩ := Module.promote_named (s.rules_named t) h file
  have hq := Module.fst_promote s.textRules file q
  refine ⟨_, _, _, _, hp, hR, ?_, rfl, ?_, ?_, ?_⟩
  · rw [hq, Module.classDecls_promoteAll, List.forall₂_map_right_iff]
    exact List.forall₂_same.2 fun d _ => ⟨d.name_promoteAll s.textRules, d.span_promoteAll s.textRules⟩
  · refine List.forall₂_map_right_iff.2 (List.forall₂_same.2 fun e he => ?_)
    exact Diagnostic.failureOf_ofNoConstructor he n
  · rw [hq, List.forall₂_map_right_iff]
    exact (q.skipped_rel_leftMarked s file).imp fun m k hk => Diagnostic.warningOf_ofSkipped hk n
  · intro d d' hd hm x hx id hid
    rw [hq, Module.zip_promoteAll] at hd
    obtain ⟨c, -, hc⟩ := List.mem_map.1 hd
    cases hc
    rw [← Param.isMarked_textRules s]
    refine ClassDecl.isMarked_of_mem_ctorParams ?_ hx (by rw [hid]; rfl)
    rw [ClassDecl.isNone_marker?_textRules, hm]
    rfl

/-- Of a name and a rest parameter that are both marked, the rest parameter is left. -/
theorem Module.promote_warns_of_what_is_left_ofName :
    let t := NameTable.ofMarkerNames
    let p := Module.ofName ⟨2, by decide⟩ [⟨.ident ⟨default, default⟩, default⟩]
    let q := Module.ofName classMarkerName [⟨.ident ⟨paramMarkerName, default⟩, default⟩]
    let run := p.promote (Settings.rules ⟨.perParameter, .error⟩ t) ""
    p.mapNames t.resolve = .ok q ∧ run.2.skipped = [⟨⟨2, by decide⟩, .rest, default⟩] ∧
    ∃ (q' : Module String) (R : Report String) (errors warnings : List Diagnostic),
      run.1.mapNames t.resolve = .ok q' ∧ run.2.mapNames t.resolve = .ok R ∧
      List.Forall₂ (fun d d' => d'.name = d.name ∧ d'.span = d.span) q.classDecls q'.classDecls ∧
      R.diagnostics default = errors ++ warnings ∧
      List.Forall₂ (Diagnostic.FailureOf q default) R.errors errors ∧
      List.Forall₂ (fun m w => Diagnostic.WarningOf default m.1 m.2 w) (q.leftMarked q') warnings ∧
      ∀ d d', (d, d') ∈ q.classDecls.zip q'.classDecls → Decorator.mention classMarkerName d.decorators = true →
        ∀ x ∈ d'.ctorParams, ∀ id, x.pattern = .ident id →
          Decorator.mention paramMarkerName x.decorators = false :=
  ⟨rfl, by rw [Settings.rules, NameTable.markers_ofMarkerNames]; rfl,
    Module.promote_warns_of_what_is_left .ofMarkerNames ⟨.perParameter, .error⟩ "" default rfl⟩

end Promotion
