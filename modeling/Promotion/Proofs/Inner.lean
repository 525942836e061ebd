import Promotion.Class.Promote
import Promotion.Proofs.Nested
/-!
# Promotion and the classes inside a class

Promoting a class touches its own decorators, the decorators of its constructor's parameters and the body of that
constructor, and none of the classes that stand in these.  So promotion and the replacement of the classes inside
commute (`ClassDecl.promote_replace`), what promotion reports does not depend on them (`ClassDecl.report_replace`), and
they are the same before and after it (`ClassDecl.classes_promote`).
-/
namespace Promotion

variable {ν : Type}

/-! ## Replacement, one level down -/

/-- Lists of parts that are gone through part by part. -/
class Part.Listwise (α : Type) [Part ν α] [Part ν (List α)] : Prop where
  replace_nil (g : ClassDecl ν → ClassDecl ν) : Part.replace g ([] : List α) = []
  replace_cons (g : ClassDecl ν → ClassDecl ν) (x : α) (xs : List α) :
    Part.replace g (x :: xs) = Part.replace g x :: Part.replace g xs
  classes_nil : Part.classes ([] : List α) = []
  classes_cons (x : α) (xs : List α) : Part.classes (x :: xs) = Part.classes x ++ Part.classes xs

instance : Part.Listwise (Decorator ν) := ⟨fun _ => rfl, fun _ _ _ => rfl, rfl, fun _ _ => Node.classes_append _ _⟩
instance : Part.Listwise (Param ν) := ⟨fun _ => rfl, fun _ _ _ => rfl, rfl, fun _ _ => Node.classes_append _ _⟩
instance : Part.Listwise (Member ν) := ⟨fun _ => rfl, fun _ _ _ => rfl, rfl, fun _ _ => Node.classes_append _ _⟩
instance : Part.Listwise (Stmt ν) := ⟨fun _ => rfl, fun _ _ _ => rfl, rfl, fun _ _ => Node.classes_append _ _⟩

section Listwise

variable {α : Type} [Part ν α] [Part ν (List α)] [Part.Listwise α]

theorem Part.replace_list (g : ClassDecl ν → ClassDecl ν) :
    ∀ xs : List α, Part.replace g xs = xs.map (Part.replace g)
  | [] => Listwise.replace_nil g
  | x :: xs => by rw [Listwise.replace_cons, replace_list g xs, List.map_cons]

theorem Part.classes_list : ∀ xs : List α, Part.classes xs = xs.flatMap Part.classes
  | [] => Listwise.classes_nil
  | x :: xs => by rw [Listwise.classes_cons, classes_list xs, List.flatMap_cons]

end Listwise

section Replace

variable (g : ClassDecl ν → ClassDecl ν)

theorem Param.replace_mk (ds : List (Decorator ν)) (p : Pattern ν) (d : Option (Expr ν)) (s : Span) :
    Part.replace g (Param.mk ds p d s) = ⟨ds.map (Part.replace g), Part.replace g p, Part.replace g d, s⟩ :=
  congrArg (Param.mk · _ _ _) (Part.replace_list g ds)

theorem Ctor.replace_mk (ps : List (Param ν)) (ss : List (Stmt ν)) (s s' : Span) :
    Part.replace g (Ctor.mk ps ⟨ss, s⟩ s') = ⟨ps.map (Part.replace g), ⟨ss.map (Part.replace g), s⟩, s'⟩ :=
  congr (congrArg (fun ps ss => Ctor.mk ps ⟨ss, s⟩ s') (Part.replace_list g ps)) (Part.replace_list g ss)

theorem ClassDecl.replace_mk (ds : List (Decorator ν)) (n : Ident ν) (b : Option (Expr ν)) (ms : List (Member ν))
    (s : Span) : Part.replace g (ClassDecl.mk ds n b ms s) =
      ⟨ds.map (Part.replace g), n, Part.replace g b, ms.map (Part.replace g), s⟩ :=
  congr (congrArg (fun ds ms => ClassDecl.mk ds n _ ms s) (Part.replace_list g ds)) (Part.replace_list g ms)

theorem Decorator.bareName_replace (d : Decorator ν) : (Part.replace g d).bareName = d.bareName := by
  obtain ⟨e, s⟩ := d
  cases e <;> rfl

theorem Pattern.shape?_replace (p : Pattern ν) : (Part.replace g p).shape? = p.shape? := by
  cases p <;> rfl

theorem Param.pattern_replace (p : Param ν) : (Part.replace g p).pattern = Part.replace g p.pattern := by
  obtain ⟨ds, p, d, s⟩ := p
  rfl

theorem Param.ident?_replace (p : Param ν) : (Part.replace g p).ident? = p.ident? := by
  obtain ⟨ds, p, d, s⟩ := p
  cases p <;> rfl

theorem Param.span_replace (p : Param ν) : (Part.replace g p).span = p.span := by
  obtain ⟨ds, p, d, s⟩ := p
  rfl

theorem Stmt.isSuperCall_replace (x : Stmt ν) : (Part.replace g x).isSuperCall = x.isSuperCall := by
  cases x with
  | expr e s =>
    cases e with
    | call c as s' => cases c <;> rfl
    | _ => rfl
  | _ => rfl

theorem superCall?_replace (body : List (Stmt ν)) : superCall? (body.map (Part.replace g)) = superCall? body := by
  unfold superCall?
  rw [List.findIdx?_map]
  exact congrArg (List.findIdx? · body) (funext (Stmt.isSuperCall_replace g))

theorem insertAssignments_replace (body ids : List (Stmt ν)) :
    insertAssignments (body.map (Part.replace g)) (ids.map (Part.replace g)) =
      (insertAssignments body ids).map (Part.replace g) := by
  have hi : insertionIndex (body.map (Part.replace g)) = insertionIndex body := by
    unfold insertionIndex
    rw [superCall?_replace]
  simp only [insertAssignments, hi, List.map_append, List.map_take, List.map_drop]

theorem Member.ctor?_replace : ∀ ms : List (Member ν),
    Member.ctor? (ms.map (Part.replace g)) = (Member.ctor? ms).map (Part.replace g)
  | [] => rfl
  | .ctor _ :: _ => rfl
  | .field .. :: ms => ctor?_replace ms
  | .method .. :: ms => ctor?_replace ms

theorem Member.ctor?_mapCtor (f : Ctor ν → Ctor ν) :
    ∀ xs : List (Member ν), Member.ctor? (Member.mapCtor f xs) = (Member.ctor? xs).map f
  | [] => rfl
  | .ctor _ :: _ => rfl
  | .field .. :: xs => ctor?_mapCtor f xs
  | .method .. :: xs => ctor?_mapCtor f xs

theorem Member.mapCtor_replace {f : Ctor ν → Ctor ν} (hf : ∀ c, f (Part.replace g c) = Part.replace g (f c)) :
    ∀ ms : List (Member ν),
      Member.mapCtor f (ms.map (Part.replace g)) = (Member.mapCtor f ms).map (Part.replace g)
  | [] => rfl
  | .ctor c :: ms => congrArg (fun c => Member.ctor c :: ms.map (Part.replace g)) (hf c)
  | .field .. :: ms => congrArg (_ :: ·) (mapCtor_replace hf ms)
  | .method .. :: ms => congrArg (_ :: ·) (mapCtor_replace hf ms)

theorem ClassDecl.name_replace (d : ClassDecl ν) : (Part.replace g d).name = d.name := by
  obtain ⟨ds, n, b, xs, s⟩ := d
  rfl

theorem ClassDecl.span_replace (d : ClassDecl ν) : (Part.replace g d).span = d.span := by
  obtain ⟨ds, n, b, xs, s⟩ := d
  rfl

theorem ClassDecl.ctor?_replace (d : ClassDecl ν) : (Part.replace g d).ctor? = d.ctor?.map (Part.replace g) := by
  obtain ⟨ds, n, b, xs, s⟩ := d
  rw [ClassDecl.replace_mk]
  exact Member.ctor?_replace g xs

theorem ClassDecl.mapCtor_replace {f : Ctor ν → Ctor ν} (hf : ∀ c, f (Part.replace g c) = Part.replace g (f c))
    (d : ClassDecl ν) : (Part.replace g d).mapCtor f = Part.replace g (d.mapCtor f) := by
  obtain ⟨ds, n, b, xs, s⟩ := d
  simp only [ClassDecl.replace_mk, ClassDecl.mapCtor, Member.mapCtor_replace g hf]

/-! ## Promotion commutes with replacement -/

variable [DecidableEq ν]

theorem Decorator.isMarker_replace (mk : Option ν) (d : Decorator ν) :
    (Part.replace g d).isMarker mk = d.isMarker mk := by
  unfold Decorator.isMarker
  rw [Decorator.bareName_replace]

theorem Decorator.strip_replace (mk : Option ν) (ds : List (Decorator ν)) :
    Decorator.strip mk (ds.map (Part.replace g)) = (Decorator.strip mk ds).map (Part.replace g) := by
  unfold Decorator.strip
  rw [List.filter_map]
  congr 1
  exact List.filter_congr fun d _ => congrArg (!·) (Decorator.isMarker_replace g mk d)

namespace Param

theorem isMarked_replace (ms : Markers ν) (p : Param ν) : (Part.replace g p).isMarked ms = p.isMarked ms := by
  obtain ⟨ds, p, d, s⟩ := p
  rw [Param.replace_mk]
  unfold Param.isMarked
  rw [List.any_map]
  exact congrArg (List.any ds) (funext (Decorator.isMarker_replace g ms.onParam))

theorem promoted?_replace (r : Rules ν) (p : Param ν) : (Part.replace g p).promoted? r = p.promoted? r := by
  unfold Param.promoted?
  rw [isMarked_replace, ident?_replace]

theorem skipped?_replace (r : Rules ν) (p : Param ν) : (Part.replace g p).skipped? r = p.skipped? r := by
  unfold Param.skipped?
  rw [isMarked_replace, pattern_replace, Pattern.shape?_replace]

theorem event?_replace (r : Rules ν) (c : ν) (p : Param ν) : (Part.replace g p).event? r c = p.event? r c := by
  unfold Param.event?
  rw [promoted?_replace, skipped?_replace, span_replace]

theorem promote_replace (r : Rules ν) (p : Param ν) : (Part.replace g p).promote r = Part.replace g (p.promote r) := by
  unfold Param.promote
  rw [promoted?_replace]
  split
  · obtain ⟨ds, p, d, s⟩ := p
    simp only [Param.replace_mk, Param.stripMarkers, Decorator.strip_replace]
  · rfl

end Param

namespace Ctor

theorem promoted_replace (r : Rules ν) (c : Ctor ν) : (Part.replace g c).promoted r = c.promoted r := by
  obtain ⟨ps, ⟨ss, s⟩, s'⟩ := c
  rw [Ctor.replace_mk]
  unfold Ctor.promoted
  rw [List.filterMap_map]
  exact congrArg (List.filterMap · ps) (funext (Param.promoted?_replace g r))

theorem promote_replace (r : Rules ν) (c : Ctor ν) : (Part.replace g c).promote r = Part.replace g (c.promote r) := by
  have hp := promoted_replace g r c
  obtain ⟨ps, ⟨ss, s⟩, s'⟩ := c
  -- the assignments hold no class, so they are their own replacement
  have ha : ∀ ids : List (Ident ν), (ids.map Ident.assignment).map (Part.replace g) = ids.map Ident.assignment :=
    fun ids => by rw [List.map_map]; rfl
  rw [Ctor.replace_mk] at hp ⊢
  unfold Ctor.promote
  rw [hp, Ctor.replace_mk, ← insertAssignments_replace, ha, List.map_map, List.map_map]
  congr 2
  exact funext (Param.promote_replace g r)

end Ctor

namespace ClassDecl

theorem isNone_marker?_replace (ms : Markers ν) (d : ClassDecl ν) :
    ((Part.replace g d).marker? ms).isNone = (d.marker? ms).isNone := by
  obtain ⟨ds, n, b, xs, s⟩ := d
  rw [ClassDecl.replace_mk]
  unfold ClassDecl.marker?
  rw [List.find?_map, Option.isNone_map]
  exact congrArg (fun p => (List.find? p ds).isNone) (funext (Decorator.isMarker_replace g ms.onClass))

theorem stripMarkers_replace (ms : Markers ν) (d : ClassDecl ν) :
    (Part.replace g d).stripMarkers ms = Part.replace g (d.stripMarkers ms) := by
  obtain ⟨ds, n, b, xs, s⟩ := d
  simp only [ClassDecl.replace_mk, ClassDecl.stripMarkers, Decorator.strip_replace]

theorem promoted_replace (r : Rules ν) (d : ClassDecl ν) (c : Ctor ν) :
    (Part.replace g d).promoted r (Part.replace g c) = d.promoted r c := by
  have hp := Ctor.promoted_replace g r c
  obtain ⟨ds, n, b, xs, s⟩ := d
  obtain ⟨ps, ⟨ss, t⟩, t'⟩ := c
  rw [Ctor.replace_mk] at hp ⊢
  rw [ClassDecl.replace_mk]
  simp only [ClassDecl.promoted, hp, superCall?_replace, List.filterMap_map, Function.comp_def,
    Param.skipped?_replace, Param.span_replace]

/-- **Promoting a class commutes with replacing the classes inside it.** -/
theorem promote_replace (r : Rules ν) (d : ClassDecl ν) :
    ((Part.replace g d).promote r).1 = Part.replace g (d.promote r).1 := by
  unfold ClassDecl.promote
  rw [isNone_marker?_replace, ctor?_replace, stripMarkers_replace]
  split
  · rfl
  · cases d.ctor? with
    | some c => exact mapCtor_replace g (Ctor.promote_replace g r) _
    | none => cases r.settings.missingConstructor <;> rfl

/-- **What promoting a class reports does not depend on the classes inside it.** -/
theorem report_replace (r : Rules ν) (d : ClassDecl ν) :
    ((Part.replace g d).promote r).2 = (d.promote r).2 := by
  unfold ClassDecl.promote
  rw [isNone_marker?_replace, ctor?_replace, name_replace, span_replace]
  split
  · rfl
  · cases d.ctor? with
    | some c =>
      simp only [Option.map_some, promoted_replace]
      obtain ⟨ps, ⟨ss, t⟩, t'⟩ := c
      simp only [Ctor.replace_mk, List.filterMap_map, Function.comp_def, Param.event?_replace]
    | none => cases r.settings.missingConstructor <;> rfl

end ClassDecl

end Replace

/-! ## Promotion keeps the classes inside a class -/

theorem Ctor.classes_mk (ps : List (Param ν)) (ss : List (Stmt ν)) (s s' : Span) :
    Part.classes (Ctor.mk ps ⟨ss, s⟩ s') = Part.classes ps ++ Part.classes ss :=
  Node.classes_append _ _

theorem ClassDecl.classes_mk (ds : List (Decorator ν)) (n : Ident ν) (b : Option (Expr ν)) (ms : List (Member ν))
    (s : Span) : Part.classes (ClassDecl.mk ds n b ms s) = Part.classes ds ++ (Part.classes b ++ Part.classes ms) := by
  unfold Part.classes
  rw [← Node.classes_append]
  exact Node.classes_append _ _

theorem classes_insertAssignments (body : List (Stmt ν)) (ids : List (Ident ν)) :
    Part.classes (insertAssignments body (ids.map Ident.assignment)) = Part.classes body := by
  have ha : (ids.map Ident.assignment).flatMap Part.classes = [] := by
    rw [List.flatMap_map]
    exact List.flatMap_eq_nil_iff.2 fun _ _ => rfl
  rw [Part.classes_list, Part.classes_list, insertAssignments, List.flatMap_append, List.flatMap_append, ha,
    List.append_nil, ← List.flatMap_append, List.take_append_drop]

theorem Member.classes_mapCtor {f : Ctor ν → Ctor ν} (hf : ∀ c, Part.classes (f c) = Part.classes c) :
    ∀ ms : List (Member ν), Part.classes (Member.mapCtor f ms) = Part.classes ms
  | [] => rfl
  | .ctor c :: ms => by
    rw [Member.mapCtor, Part.Listwise.classes_cons, Part.Listwise.classes_cons]
    exact congrArg (· ++ _) (hf c)
  | .field .. :: ms => by
    rw [Member.mapCtor, Part.Listwise.classes_cons, Part.Listwise.classes_cons, classes_mapCtor hf ms]
    nofun
  | .method .. :: ms => by
    rw [Member.mapCtor, Part.Listwise.classes_cons, Part.Listwise.classes_cons, classes_mapCtor hf ms]
    nofun

theorem ClassDecl.classes_mapCtor {f : Ctor ν → Ctor ν} (hf : ∀ c, Part.classes (f c) = Part.classes c)
    (d : ClassDecl ν) : Part.classes (d.mapCtor f) = Part.classes d := by
  obtain ⟨ds, n, b, ms, s⟩ := d
  rw [ClassDecl.mapCtor, ClassDecl.classes_mk, ClassDecl.classes_mk, Member.classes_mapCtor hf]

section Classes

variable [DecidableEq ν]

theorem Decorator.classes_of_isMarker {mk : Option ν} {d : Decorator ν} (h : d.isMarker mk = true) :
    Part.classes d = [] := by
  obtain ⟨e, s⟩ := d
  cases e with
  | ident id => rfl
  | _ => cases mk <;> cases h

theorem Decorator.classes_strip (mk : Option ν) (ds : List (Decorator ν)) :
    Part.classes (Decorator.strip mk ds) = Part.classes ds := by
  induction ds with
  | nil => rfl
  | cons d ds ih =>
    rw [Part.Listwise.classes_cons, ← ih]
    cases h : d.isMarker mk with
    | true => simp [Decorator.strip, h, Decorator.classes_of_isMarker h]
    | false => simp [Decorator.strip, h, Part.Listwise.classes_cons]

theorem Param.classes_stripMarkers (ms : Markers ν) (p : Param ν) :
    Part.classes (p.stripMarkers ms) = Part.classes p := by
  have hmk : ∀ (ds : List (Decorator ν)) (p : Pattern ν) (d : Option (Expr ν)) (s : Span),
      Part.classes (Param.mk ds p d s) = Part.classes ds ++ Part.classes p ++ Part.classes d := fun ds p d s => by
    unfold Part.classes
    rw [← Node.classes_append, ← Node.classes_append]
    rfl
  obtain ⟨ds, p, d, s⟩ := p
  rw [Param.stripMarkers, hmk, hmk, Decorator.classes_strip]

theorem Param.classes_promote (r : Rules ν) (p : Param ν) : Part.classes (p.promote r) = Part.classes p := by
  unfold Param.promote
  split
  · exact Param.classes_stripMarkers r.markers p
  · rfl

theorem Ctor.classes_promote (r : Rules ν) (c : Ctor ν) : Part.classes (c.promote r) = Part.classes c := by
  obtain ⟨ps, ⟨ss, s⟩, s'⟩ := c
  unfold Ctor.promote
  rw [Ctor.classes_mk, Ctor.classes_mk, classes_insertAssignments, Part.classes_list, Part.classes_list ps,
    List.flatMap_map]
  exact congrArg (List.flatMap · ps ++ _) (funext (Param.classes_promote r))

theorem ClassDecl.classes_stripMarkers (ms : Markers ν) (d : ClassDecl ν) :
    Part.classes (d.stripMarkers ms) = Part.classes d := by
  obtain ⟨ds, n, b, xs, s⟩ := d
  rw [ClassDecl.stripMarkers, ClassDecl.classes_mk, ClassDecl.classes_mk, Decorator.classes_strip]

/-- **Promoting a class keeps the classes inside it**, all of them, in their order and as they are. -/
theorem ClassDecl.classes_promote (r : Rules ν) (d : ClassDecl ν) :
    Part.classes (d.promote r).1 = Part.classes d := by
  unfold ClassDecl.promote
  split
  · rfl
  · cases d.ctor? with
    | some c =>
      exact (ClassDecl.classes_mapCtor (Ctor.classes_promote r) _).trans (ClassDecl.classes_stripMarkers r.markers d)
    | none => cases r.settings.missingConstructor <;> exact ClassDecl.classes_stripMarkers r.markers d

end Classes

end Promotion
