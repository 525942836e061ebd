import Mathlib.Data.List.Perm.Basic
import Promotion.Proofs.Run
/-!
# What a run adds and what it takes away

Promotion takes markers away from a class and from the parameters of its constructor, and it adds one assignment for
each promoted parameter.  `ClassDecl.taken` and `ClassDecl.added` are these markers and the identifiers assigned, read
off the class as it was before.

Nothing else comes or goes, and this is said as a balance: of the nodes with a given property there are as many after a
run, with those taken away, as there were before it, with those added (`Module.balanced_promote`).  The property may be
any that looks only at what a node holds by itself (`Node.Own`), since the nodes around a marker stay and yet are no
longer the same.
-/
namespace Promotion

variable {ν : Type}

/-- The property looks at nothing of a node but what the node holds by itself. -/
def Node.Own (q : Node ν → Bool) : Prop :=
  ∀ n n' : Node ν, n.isStmt = n'.isStmt → n.names = n'.names → n.spans = n'.spans → q n = q n'

/-- Of the nodes with the property `q` there are as many after a change, with what was taken away, as before it, with
what was added. -/
def Balanced (q : Node ν → Bool) (before added after taken : List (Node ν)) : Prop :=
  before.countP q + added.countP q = after.countP q + taken.countP q

namespace Balanced

variable {q : Node ν → Bool} {b a b' t c d c' e : List (Node ν)}

theorem refl (q : Node ν → Bool) (b : List (Node ν)) : Balanced q b [] b [] := rfl

theorem append (h : Balanced q b a b' t) (h' : Balanced q c d c' e) :
    Balanced q (b ++ c) (a ++ d) (b' ++ c') (t ++ e) := by
  unfold Balanced at *
  simp only [List.countP_append]
  omega

theorem trans (h : Balanced q b a b' t) (h' : Balanced q b' d c e) : Balanced q b (a ++ d) c (t ++ e) := by
  unfold Balanced at *
  simp only [List.countP_append]
  omega

theorem cons {n n' : Node ν} (hn : q n = q n') (h : Balanced q b a b' t) : Balanced q (n :: b) a (n' :: b') t := by
  unfold Balanced at *
  simp only [List.countP_cons, hn]
  omega

theorem flatMap {α : Type} {xs : List α} {b a b' t : α → List (Node ν)}
    (h : ∀ x ∈ xs, Balanced q (b x) (a x) (b' x) (t x)) :
    Balanced q (xs.flatMap b) (xs.flatMap a) (xs.flatMap b') (xs.flatMap t) := by
  induction xs with
  | nil => exact refl q []
  | cons x xs ih =>
    simp only [List.flatMap_cons]
    exact (h x List.mem_cons_self).append (ih fun y hy => h y (List.mem_cons_of_mem x hy))

/-- What a node has afterwards, some node had before or some added one has. -/
theorem exists_mem (h : Balanced q b a b' t) {n : Node ν} (hn : n ∈ b') (hq : q n = true) :
    ∃ n' ∈ b ++ a, q n' = true := by
  have hp : 0 < b'.countP q := List.countP_pos_iff.2 ⟨n, hn, hq⟩
  refine List.countP_pos_iff.1 ?_
  rw [List.countP_append]
  unfold Balanced at h
  omega

end Balanced

/-! ## Other classes in the places of classes -/

/-- Outside of the classes that stand in a part outermost, replacing these classes changes no count. -/
def Part.Counted {α : Type} [Part ν α] (x : α) : Prop :=
  ∃ cs : List (ClassDecl ν), Part.classes x = cs.flatMap ClassDecl.classDecls ∧
    ∀ q : Node ν → Bool, Node.Own q → ∃ rest : Nat, ∀ g : ClassDecl ν → ClassDecl ν,
      (Part.nodes (Part.replace g x)).countP q = rest + (cs.flatMap fun c => (g c).nodes).countP q

namespace Part.Counted

theorem leaf {α : Type} [Part ν α] {x : α} (hr : ∀ g, Part.replace g x = x) (hc : Part.classes x = []) :
    Counted x :=
  ⟨[], hc, fun q _ => ⟨(Part.nodes x).countP q, fun g => by rw [hr g]; rfl⟩⟩

theorem classDef (d : ClassDecl ν) : Counted (Stmt.classDef d) := by
  refine ⟨[d], ?_, fun q hq => ⟨if q (.stmt (.classDef d)) then 1 else 0, fun g => ?_⟩⟩
  · rw [List.flatMap_singleton]
    rfl
  · have hn : Part.nodes (Part.replace g (Stmt.classDef d)) = .stmt (.classDef (g d)) :: (g d).nodes := rfl
    have hs : q (.stmt (.classDef (g d))) = q (.stmt (.classDef d)) := hq _ _ rfl rfl rfl
    rw [hn, List.countP_cons, hs, List.flatMap_singleton, Nat.add_comm]

theorem hereditary : Hereditary fun A [∀ ν, Part ν (A ν)] [Syntax A] (x : A ν) => Counted x where
  noParts := leaf (fun _ => rfl) rfl
  ident _ := leaf (fun _ => rfl) rfl
  str _ _ := leaf (fun _ => rfl) rfl
  exportNames _ _ := leaf (fun _ => rfl) rfl
  classDef d _ := classDef d
  prod := by
    rintro A B _ _ _ _ x y ⟨cs, hcs, hx⟩ ⟨ds, hds, hy⟩
    refine ⟨cs ++ ds, ?_, fun q hq => ?_⟩
    · rw [List.flatMap_append, ← hcs, ← hds]
      exact Node.classes_append _ _
    · obtain ⟨m, hm⟩ := hx q hq
      obtain ⟨n, hn⟩ := hy q hq
      refine ⟨m + n, fun g => ?_⟩
      have hp : Part.nodes (Part.replace g (x, y)) =
          Part.nodes (Part.replace g x) ++ Part.nodes (Part.replace g y) := rfl
      rw [hp, List.countP_append, List.flatMap_append, List.countP_append, hm g, hn g]
      omega
  plain := by
    rintro A B _ _ _ _ k hk x ⟨cs, hcs, hx⟩
    refine ⟨cs, (hk.wrap.classes x).trans hcs, fun q hq => ?_⟩
    obtain ⟨m, hm⟩ := hx q hq
    refine ⟨m, fun g => ?_⟩
    have hr : Part.replace g (k _ x) = k _ (Part.replace g x) := hk.wrap.visit (m := Id) _ x
    rw [hr, hk.nodes, hm g]
  headed := by
    rintro A B _ _ _ _ _ k hk x ⟨cs, hcs, hx⟩
    refine ⟨cs, (hk.wrap.classes x).trans hcs, fun q hq => ?_⟩
    obtain ⟨m, hm⟩ := hx q hq
    refine ⟨m + if q (Kind.node (k _ x)) then 1 else 0, fun g => ?_⟩
    have hr : Part.replace g (k _ x) = k _ (Part.replace g x) := hk.wrap.visit (m := Id) _ x
    have hn : q (Kind.node (k _ (Part.replace g x))) = q (Kind.node (k _ x)) :=
      hq _ _ (Kind.isStmt_node _ _) (by rw [hk.names, hk.names]) (hk.spans g x)
    rw [hr, hk.nodes, List.countP_cons, hn, hm g]
    omega

/-- If a change of the classes in a part is balanced in each of them, it is balanced in the part. -/
theorem balanced_replace {α : Type} [Part ν α] {x : α} (hx : Counted x) (hl : Layout x) {q : Node ν → Bool}
    (hq : Node.Own q) {g : ClassDecl ν → ClassDecl ν} {added taken : ClassDecl ν → List (Node ν)}
    (h : ∀ c, c.classDecls.Sublist (Part.classes x) →
      Balanced q c.nodes (c.classDecls.flatMap added) (g c).nodes (c.classDecls.flatMap taken)) :
    Balanced q (Part.nodes x) ((Part.classes x).flatMap added) (Part.nodes (Part.replace g x))
      ((Part.classes x).flatMap taken) := by
  obtain ⟨cs, hcs, hx⟩ := hx
  obtain ⟨rest, hr⟩ := hx q hq
  have hc : Balanced q (cs.flatMap ClassDecl.nodes) ((Part.classes x).flatMap added) (cs.flatMap fun c => (g c).nodes)
      ((Part.classes x).flatMap taken) := by
    rw [hcs, List.flatMap_assoc, List.flatMap_assoc]
    refine Balanced.flatMap fun c hc => h c ?_
    rw [hcs]
    exact List.sublist_flatten_of_mem (List.mem_map_of_mem hc)
  have hid : (Part.nodes x).countP q = rest + (cs.flatMap ClassDecl.nodes).countP q := by
    have h := hr fun c => c
    rwa [hl.replace_eq_self fun _ _ => rfl] at h
  unfold Balanced at *
  rw [hid, hr g]
  omega

end Part.Counted

theorem ClassDecl.counted (d : ClassDecl ν) : Part.Counted d := d.hereditary Part.Counted.hereditary

theorem Module.counted (p : Module ν) : Part.Counted p := p.hereditary Part.Counted.hereditary

/-! ## Promoting one class -/

section Promotion

variable [DecidableEq ν]

/-- The markers that promotion takes from a parameter. -/
def Param.taken (r : Rules ν) (x : Param ν) : List (Decorator ν) :=
  if (x.promoted? r).isSome then x.decorators.filter (·.isMarker r.markers.onParam) else []

def Ctor.taken (r : Rules ν) (c : Ctor ν) : List (Decorator ν) := c.params.flatMap (·.taken r)

namespace ClassDecl

/-- The markers that promotion takes from a class and from the parameters of its first constructor. -/
def taken (r : Rules ν) (d : ClassDecl ν) : List (Decorator ν) :=
  if (d.marker? r.markers).isNone then []
  else d.decorators.filter (·.isMarker r.markers.onClass) ++ (d.ctor?.map (·.taken r)).getD []

/-- The identifiers that promotion adds assignments for. -/
def added (r : Rules ν) (d : ClassDecl ν) : List (Ident ν) :=
  if (d.marker? r.markers).isNone then [] else (d.ctor?.map (·.promoted r)).getD []

end ClassDecl

variable {q : Node ν → Bool} (hq : Node.Own q) (r : Rules ν)

theorem Decorator.balanced_strip (mk : Option ν) (ds : List (Decorator ν)) :
    Balanced q (ds.flatMap Decorator.nodes) [] ((strip mk ds).flatMap Decorator.nodes)
      ((ds.filter (·.isMarker mk)).flatMap Decorator.nodes) := by
  have hp : (strip mk ds ++ ds.filter (·.isMarker mk)).Perm ds := by
    have := List.filter_append_perm (·.isMarker mk) ds
    exact List.perm_append_comm.trans this
  unfold Balanced
  rw [List.countP_nil, Nat.add_zero, ← List.countP_append, ← List.flatMap_append]
  exact ((hp.flatMap_right Decorator.nodes).countP_eq q).symm

include hq

theorem Param.balanced_promote (x : Param ν) :
    Balanced q x.nodes [] (x.promote r).nodes ((x.taken r).flatMap Decorator.nodes) := by
  unfold Param.promote Param.taken
  split
  · obtain ⟨ds, p, v, s⟩ := x
    have h := Decorator.balanced_strip (q := q) r.markers.onParam ds
    simp only [Param.stripMarkers, Param.nodes, Decorator.nodesAll_eq]
    refine .cons (hq _ _ rfl rfl rfl) ?_
    simpa using (h.append (.refl q p.nodes)).append (.refl q (Expr.nodesOpt v))
  · exact .refl q _

theorem Ctor.balanced_promote (c : Ctor ν) :
    Balanced q c.nodes ((c.promoted r).flatMap fun id => id.assignment.nodes) (c.promote r).nodes
      ((c.taken r).flatMap Decorator.nodes) := by
  obtain ⟨ps, ⟨ss, s⟩, s'⟩ := c
  have hp : Balanced q (ps.flatMap Param.nodes) [] ((ps.map (·.promote r)).flatMap Param.nodes)
      ((ps.flatMap (·.taken r)).flatMap Decorator.nodes) := by
    have hn : (ps.flatMap fun _ => ([] : List (Node ν))) = [] := List.flatMap_eq_nil_iff.2 fun _ _ => rfl
    rw [← hn, List.flatMap_map, List.flatMap_assoc]
    exact Balanced.flatMap fun x _ => x.balanced_promote hq r
  have hb : Balanced q (Block.nodes ⟨ss, s⟩) ((ps.filterMap (·.promoted? r)).flatMap fun id => id.assignment.nodes)
      (Block.nodes ⟨insertAssignments ss ((ps.filterMap (·.promoted? r)).map Ident.assignment), s⟩) [] := by
    generalize ps.filterMap (·.promoted? r) = ids
    simp only [Block.nodes, Stmt.nodesAll_eq]
    refine .cons (hq _ _ rfl rfl rfl) ?_
    have hs : ss.flatMap Stmt.nodes = (ss.take (insertionIndex ss)).flatMap Stmt.nodes ++
        (ss.drop (insertionIndex ss)).flatMap Stmt.nodes := by
      rw [← List.flatMap_append, List.take_append_drop]
    unfold Balanced insertAssignments
    simp only [hs, List.flatMap_append, List.flatMap_map, List.countP_append, List.countP_nil]
    omega
  simpa [Ctor.nodes, Ctor.promote, Ctor.promoted, Ctor.taken, Param.nodesAll_eq] using hp.append hb

omit [DecidableEq ν] in
theorem Member.balanced_mapCtor {f : Ctor ν → Ctor ν} {a t : Ctor ν → List (Node ν)}
    (hf : ∀ c, Balanced q c.nodes (a c) (f c).nodes (t c)) (hs : ∀ c, (f c).span = c.span) :
    ∀ ms : List (Member ν), Balanced q (Member.nodesAll ms) (((Member.ctor? ms).map a).getD [])
      (Member.nodesAll (Member.mapCtor f ms)) (((Member.ctor? ms).map t).getD [])
  | [] => .refl q []
  | .ctor c :: ms => by
    have hc : q (.member (.ctor c)) = q (.member (.ctor (f c))) := hq _ _ rfl rfl (congrArg (fun s => [s]) (hs c).symm)
    simpa [Member.ctor?, Member.mapCtor, Member.nodesAll, Member.nodes] using
      (Balanced.cons hc (hf c)).append (.refl q (Member.nodesAll ms))
  | .field ds n i st s :: ms => (Balanced.refl q (Member.field ds n i st s).nodes).append (balanced_mapCtor hf hs ms)
  | .method ds n ps b st a s :: ms =>
    (Balanced.refl q (Member.method ds n ps b st a s).nodes).append (balanced_mapCtor hf hs ms)

omit hq in
/-- What promotion makes of a marked class: a constructor that is missing is not promoted. -/
theorem ClassDecl.fst_promote_of_marked {r : Rules ν} {d : ClassDecl ν} (h : (d.marker? r.markers).isNone = false) :
    (d.promote r).1 = (d.stripMarkers r.markers).mapCtor (·.promote r) := by
  have hm : ∀ ms : List (Member ν), Member.ctor? ms = none → Member.mapCtor (·.promote r) ms = ms := by
    intro ms hms
    induction ms with
    | nil => rfl
    | cons x ms ih =>
      cases x with
      | ctor c => cases hms
      | field => exact congrArg _ (ih hms)
      | method => exact congrArg _ (ih hms)
  cases hc : d.ctor? with
  | some c => rw [promote_of_ctor h hc]
  | none =>
    rw [promote_of_noCtor h hc]
    unfold ClassDecl.mapCtor ClassDecl.stripMarkers
    rw [hm d.members hc]

/-- **Promoting a class takes its markers away and adds its assignments, and keeps the rest.** -/
theorem ClassDecl.balanced_promote (d : ClassDecl ν) :
    Balanced q d.nodes ((d.added r).flatMap fun id => id.assignment.nodes) (d.promote r).1.nodes
      ((d.taken r).flatMap Decorator.nodes) := by
  unfold ClassDecl.added ClassDecl.taken
  cases h : (d.marker? r.markers).isNone with
  | true =>
    rw [promote_of_unmarked h]
    exact .refl q _
  | false =>
    rw [fst_promote_of_marked h]
    obtain ⟨ds, n, b, ms, s⟩ := d
    refine .cons (hq _ _ rfl rfl rfl) ?_
    have hd := Decorator.balanced_strip (q := q) r.markers.onClass ds
    have hc := Member.balanced_mapCtor hq (f := (·.promote r)) (fun c => c.balanced_promote hq r) (fun _ => rfl) ms
    simp only [ClassDecl.stripMarkers, ClassDecl.mapCtor, ClassDecl.ctor?, ClassDecl.inside, Decorator.nodesAll_eq]
    generalize Member.ctor? ms = c at hc ⊢
    have h := hd.append ((Balanced.refl q [.ident n]).append ((Balanced.refl q (Expr.nodesOpt b)).append hc))
    cases c <;> simpa using h

/-! ## Promoting all classes -/

/-- The balance of a class and all the classes inside it. -/
theorem ClassDecl.balanced_promoteAll (d : ClassDecl ν) :
    Balanced q d.nodes (d.classDecls.flatMap fun c => (c.added r).flatMap fun id => id.assignment.nodes)
      (d.promoteAll r).nodes (d.classDecls.flatMap fun c => (c.taken r).flatMap Decorator.nodes) := by
  induction d using ClassDecl.nested_induction with
  | step d ih =>
    have hd := d.balanced_promote hq r
    rw [← classes_promote r d] at ih
    have hi := (d.promote r).1.counted.balanced_replace (d.promote r).1.layout hq ih
    rw [classes_promote r d, ← promoteAll_eq] at hi
    have hs : q (.classDecl (d.promote r).1) = q (.classDecl (d.promoteAll r)) := by
      rw [promoteAll_eq]
      exact hq _ _ rfl rfl (congrArg (fun s => [s]) (span_replace _ _).symm)
    exact hd.trans (.cons hs hi)

/-- **The balance of a run.** -/
theorem Module.balanced_promote (file : String) (p : Module ν) :
    Balanced q p.nodes (p.classDecls.flatMap fun d => (d.added r).flatMap fun id => id.assignment.nodes)
      (p.promote r file).1.nodes (p.classDecls.flatMap fun d => (d.taken r).flatMap Decorator.nodes) := by
  rw [fst_promote, promoteAll_eq]
  exact p.counted.balanced_replace p.layout hq fun c _ => c.balanced_promoteAll hq r

end Promotion

end Promotion
