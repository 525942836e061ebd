import Promotion.Class.Promote
import Promotion.Proofs.Nested
/-!
# Trees under other names

`x.mapNames f = .ok x'` says that every name of `x` has a name under `f`, and that `x'` is `x` under these names.  Read
as a relation it goes through the tree node by node: two nodes are related if their parts are (`mapNames_eq_ok_iff`),
two lists if their elements are (`all_eq_ok_iff`), and the classes at any depth are related one by one
(`Module.classDecls_rel`).  Replacing classes by related ones keeps the relation (`NamedLayout.walk_replace`).

What promotion reads of a node besides its names is the same for related nodes, and what it builds out of related parts
is related.
-/
namespace Promotion

variable {ν μ ε : Type} {f : ν → Except ε μ}

/-! ## Lists and options -/

section Lists

variable {α β γ : Type} {one : α → Except ε β}

/-- A function that goes through a list element by element relates the elements of the two lists. -/
theorem all_eq_ok_iff (all : List α → Except ε (List β)) (hn : all [] = pure [])
    (hc : ∀ x xs, all (x :: xs) = do return (← one x) :: (← all xs)) :
    ∀ {xs : List α} {ys : List β}, all xs = .ok ys ↔ List.Forall₂ (Yields one) xs ys
  | [], ys => by
    rw [hn, List.forall₂_nil_left_iff]
    constructor
    · intro h
      exact (Except.ok.inj h).symm
    · rintro rfl
      rfl
  | x :: xs, ys => by
    rw [hc, List.forall₂_cons_left_iff, bind_eq_ok_iff]
    constructor
    · rintro ⟨y, hy, h⟩
      obtain ⟨zs, hzs, h⟩ := bind_eq_ok_iff.1 h
      exact ⟨y, zs, hy, (all_eq_ok_iff all hn hc).1 hzs, (Except.ok.inj h).symm⟩
    · rintro ⟨y, zs, hy, hzs, rfl⟩
      exact ⟨y, hy, bind_eq_ok_iff.2 ⟨zs, (all_eq_ok_iff all hn hc).2 hzs, rfl⟩⟩

theorem mapM_eq_ok_iff {xs : List α} {ys : List β} : xs.mapM one = .ok ys ↔ List.Forall₂ (Yields one) xs ys :=
  all_eq_ok_iff _ List.mapM_nil fun _ _ => List.mapM_cons

theorem isSome_eq_of_rel {R : α → β → Prop} {a : Option α} {b : Option β} (h : Option.Rel R a b) :
    a.isSome = b.isSome := by
  cases h <;> rfl

theorem forall₂_trans {R : α → β → Prop} {S : β → γ → Prop} {T : α → γ → Prop} (hT : ∀ a b c, R a b → S b c → T a c)
    {xs : List α} {ys : List β} (hR : List.Forall₂ R xs ys) :
    ∀ {zs : List γ}, List.Forall₂ S ys zs → List.Forall₂ T xs zs := by
  induction hR with
  | nil =>
    rintro _ ⟨⟩
    exact .nil
  | cons hr _ ih =>
    rintro _ (_ | ⟨hs, hS⟩)
    exact .cons (hT _ _ _ hr hs) (ih hS)

/-- What a list is left with, one by one, and the elements that it comes from. -/
theorem forall₂_filterMap (g : α → Option β) : ∀ xs : List α,
    List.Forall₂ (fun x y => g x = some y) (xs.filter fun x => (g x).isSome) (xs.filterMap g)
  | [] => .nil
  | x :: xs => by
    cases h : g x with
    | none =>
      rw [List.filter_cons_of_neg (by simp [h]), List.filterMap_cons_none h]
      exact forall₂_filterMap g xs
    | some y =>
      rw [List.filter_cons_of_pos (by simp [h]), List.filterMap_cons_some h]
      exact .cons h (forall₂_filterMap g xs)

/-- What all results of `act` have in common, the one that it comes to has. -/
theorem eq_of_map_eq {act : Except ε β} {b : β} (h : act = .ok b) {g : β → γ} {c : γ}
    (hg : g <$> act = (fun _ => c) <$> act) : c = g b := by
  rw [h] at hg
  exact (Except.ok.inj hg).symm

end Lists

/-! ## The classes of a tree -/

namespace NamedLayout

variable {A : Type → Type} [∀ ν, Part ν (A ν)] {walk : A ν → Except ε (A μ)} {x : A ν} (hx : NamedLayout A f walk x)
  {x' : A μ} (hx' : walk x = .ok x')

include hx hx'

theorem walk_replace {g : ClassDecl ν → ClassDecl ν} {g' : ClassDecl μ → ClassDecl μ}
    (h : ∀ c : ClassDecl ν, c.classDecls.Sublist (Part.classes x) →
      ∀ c', c.mapNames f = .ok c' → (g c).mapNames f = .ok (g' c')) :
    walk (Part.replace g x) = .ok (Part.replace g' x') := by
  obtain ⟨cs, fill, hf, rfl, hn⟩ := hx
  obtain ⟨cs', fill', hf', rfl, hc, hw⟩ := hn x' hx'
  have hs := (List.forall₂_and_left cs cs').2 ⟨fun c => hf.classDecls_sublist rfl, hc⟩
  rw [hf.replace_fill rfl, hf'.replace_fill hc.length_eq.symm]
  refine hw _ _ (List.length_map _) (List.rel_map ?_ hs)
  exact fun c c' hc => h c hc.1 c' hc.2

theorem classes_rel
    (h : ∀ c : ClassDecl ν, c.classDecls.Sublist (Part.classes x) →
      ∀ c', c.mapNames f = .ok c' → List.Forall₂ (Yields (ClassDecl.mapNames f)) c.classDecls c'.classDecls) :
    List.Forall₂ (Yields (ClassDecl.mapNames f)) (Part.classes x) (Part.classes x') := by
  obtain ⟨cs, fill, hf, rfl, hn⟩ := hx
  obtain ⟨cs', fill', hf', rfl, hc, -⟩ := hn x' hx'
  have hs := (List.forall₂_and_left cs cs').2 ⟨fun c => hf.classDecls_sublist rfl, hc⟩
  rw [hf.classes cs rfl, hf'.classes cs' hc.length_eq.symm]
  exact List.rel_flatMap hs fun c c' hc => h c hc.1 c' hc.2

end NamedLayout

theorem ClassDecl.classDecls_rel (d : ClassDecl ν) : ∀ d' : ClassDecl μ, d.mapNames f = .ok d' →
    List.Forall₂ (Yields (ClassDecl.mapNames f)) d.classDecls d'.classDecls := by
  induction d using ClassDecl.nested_induction with
  | step d ih =>
    intro d' h
    exact .cons h ((d.named f).classes_rel h ih)

/-- **The classes of a module at any depth are those of the module under other names, in the same order.** -/
theorem Module.classDecls_rel {p : Module ν} {q : Module μ} (h : p.mapNames f = .ok q) :
    List.Forall₂ (Yields (ClassDecl.mapNames f)) p.classDecls q.classDecls :=
  (p.named f).classes_rel h fun c _ => c.classDecls_rel

/-! ## Node by node -/

theorem Ident.mapNames_eq_ok_iff {id : Ident ν} {id' : Ident μ} :
    id.mapNames f = .ok id' ↔ f id.name = .ok id'.name ∧ id.span = id'.span := by
  cases id
  cases id'
  simp [Ident.mapNames, bind_eq_ok_iff, pure, Except.pure]

theorem Param.mapNames_eq_ok_iff {p : Param ν} {p' : Param μ} :
    p.mapNames f = .ok p' ↔ List.Forall₂ (Yields (Decorator.mapNames f)) p.decorators p'.decorators ∧
      p.pattern.mapNames f = .ok p'.pattern ∧ Expr.mapNamesOpt f p.default = .ok p'.default ∧ p.span = p'.span := by
  rw [← all_eq_ok_iff (Decorator.mapNamesAll f) rfl fun _ _ => rfl]
  cases p
  cases p'
  simp [Param.mapNames, bind_eq_ok_iff, pure, Except.pure]

theorem Ctor.mapNames_eq_ok_iff {c : Ctor ν} {c' : Ctor μ} :
    c.mapNames f = .ok c' ↔ List.Forall₂ (Yields (Param.mapNames f)) c.params c'.params ∧
      List.Forall₂ (Yields (Stmt.mapNames f)) c.body.statements c'.body.statements ∧ c.body.span = c'.body.span ∧
      c.span = c'.span := by
  rw [← all_eq_ok_iff (Param.mapNamesAll f) rfl fun _ _ => rfl, ← all_eq_ok_iff (Stmt.mapNamesAll f) rfl fun _ _ => rfl]
  obtain ⟨ps, ⟨ss, s⟩, t⟩ := c
  obtain ⟨ps', ⟨ss', s'⟩, t'⟩ := c'
  simp [Ctor.mapNames, Block.mapNames, bind_eq_ok_iff, pure, Except.pure, and_assoc]

/-- A member is a constructor under other names if it is one, and then it is that constructor. -/
theorem Member.ctor_or {x : Member ν} {x' : Member μ} (h : x.mapNames f = .ok x') :
    (∃ c c', x = .ctor c ∧ x' = .ctor c' ∧ c.mapNames f = .ok c') ∨ (∀ c, x ≠ .ctor c) ∧ ∀ c', x' ≠ .ctor c' := by
  cases x with
  | ctor c =>
    obtain ⟨c', hc, rfl⟩ := map_eq_ok_iff.1 ((map_eq_pure_bind Member.ctor _).trans h)
    exact .inl ⟨c, c', rfl, rfl, hc⟩
  | _ =>
    refine .inr ⟨nofun, ?_⟩
    rintro c' rfl
    simp [Member.mapNames, bind_eq_ok_iff, pure, Except.pure] at h

theorem ClassDecl.mapNames_eq_ok_iff {d : ClassDecl ν} {d' : ClassDecl μ} :
    d.mapNames f = .ok d' ↔ List.Forall₂ (Yields (Decorator.mapNames f)) d.decorators d'.decorators ∧
      d.name.mapNames f = .ok d'.name ∧ Expr.mapNamesOpt f d.base = .ok d'.base ∧
      List.Forall₂ (Yields (Member.mapNames f)) d.members d'.members ∧ d.span = d'.span := by
  rw [← all_eq_ok_iff (Decorator.mapNamesAll f) rfl fun _ _ => rfl,
    ← all_eq_ok_iff (Member.mapNamesAll f) rfl fun _ _ => rfl]
  cases d
  cases d'
  simp [ClassDecl.mapNames, bind_eq_ok_iff, pure, Except.pure]

/-! ## What promotion reads -/

theorem Decorator.bareName_rel {d : Decorator ν} {d' : Decorator μ} (h : d.mapNames f = .ok d') :
    Option.Rel (Yields f) d.bareName d'.bareName := by
  obtain ⟨e, s⟩ := d
  cases e with
  | ident id =>
    obtain ⟨e', he, rfl⟩ := map_eq_ok_iff.1 ((map_eq_pure_bind (Decorator.mk · s) _).trans h)
    obtain ⟨id', hid, rfl⟩ := map_eq_ok_iff.1 ((map_eq_pure_bind Expr.ident _).trans he)
    exact .some (Ident.mapNames_eq_ok_iff.1 hid).1
  | _ =>
    have hn : none = d'.bareName :=
      eq_of_map_eq h (by simp [Decorator.mapNames, Expr.mapNames, Decorator.bareName])
    rw [← hn]
    exact .none

theorem Pattern.shape?_eq {p : Pattern ν} {p' : Pattern μ} (h : p.mapNames f = .ok p') : p.shape? = p'.shape? := by
  refine eq_of_map_eq h ?_
  cases p <;> simp [Pattern.mapNames, Pattern.shape?]

theorem Param.ident?_rel {p : Param ν} {p' : Param μ} (h : p.mapNames f = .ok p') :
    Option.Rel (Yields (Ident.mapNames f)) p.ident? p'.ident? := by
  have hp := (Param.mapNames_eq_ok_iff.1 h).2.1
  unfold Param.ident?
  generalize p.pattern = q at hp
  generalize p'.pattern = q' at hp
  cases q with
  | ident id =>
    obtain ⟨id', hid, rfl⟩ := map_eq_ok_iff.1 ((map_eq_pure_bind Pattern.ident _).trans hp)
    exact .some hid
  | _ =>
    have hs := Pattern.shape?_eq hp
    cases q' with
    | ident id' => cases hs
    | _ => exact .none

theorem Stmt.isSuperCall_eq {x : Stmt ν} {x' : Stmt μ} (h : x.mapNames f = .ok x') :
    x.isSuperCall = x'.isSuperCall := by
  refine eq_of_map_eq h ?_
  cases x with
  | expr e s =>
    cases e with
    | call c as s' => cases c <;> simp [Stmt.mapNames, Expr.mapNames, Stmt.isSuperCall]
    | _ => simp [Stmt.mapNames, Expr.mapNames, Stmt.isSuperCall]
  | _ => simp [Stmt.mapNames, Stmt.isSuperCall]

theorem superCall?_eq {ss : List (Stmt ν)} {ss' : List (Stmt μ)}
    (h : List.Forall₂ (Yields (Stmt.mapNames f)) ss ss') : superCall? ss = superCall? ss' := by
  have he : ss.map Stmt.isSuperCall = ss'.map Stmt.isSuperCall := map_eq_of_forall₂ h fun _ _ => Stmt.isSuperCall_eq
  have hi := congrArg (List.findIdx? id) he
  rw [List.findIdx?_map, List.findIdx?_map] at hi
  exact hi

theorem Member.ctor?_rel {xs : List (Member ν)} {xs' : List (Member μ)}
    (h : List.Forall₂ (Yields (Member.mapNames f)) xs xs') :
    Option.Rel (Yields (Ctor.mapNames f)) (Member.ctor? xs) (Member.ctor? xs') := by
  induction h with
  | nil => exact .none
  | @cons x x' xs xs' hx _ ih =>
    obtain ⟨c, c', rfl, rfl, hc⟩ | ⟨hn, hn'⟩ := Member.ctor_or hx
    · exact .some hc
    · rwa [Member.ctor?, Member.ctor?]
      · exact hn'
      · exact hn

theorem ClassDecl.ctor?_rel {d : ClassDecl ν} {d' : ClassDecl μ} (h : d.mapNames f = .ok d') :
    Option.Rel (Yields (Ctor.mapNames f)) d.ctor? d'.ctor? :=
  Member.ctor?_rel (ClassDecl.mapNames_eq_ok_iff.1 h).2.2.2.1

/-! ## What promotion builds -/

theorem insertAssignments_rel {ss as : List (Stmt ν)} {ss' as' : List (Stmt μ)}
    (hs : List.Forall₂ (Yields (Stmt.mapNames f)) ss ss') (ha : List.Forall₂ (Yields (Stmt.mapNames f)) as as') :
    List.Forall₂ (Yields (Stmt.mapNames f)) (insertAssignments ss as) (insertAssignments ss' as') := by
  have hi : insertionIndex ss = insertionIndex ss' := by
    unfold insertionIndex
    rw [superCall?_eq hs]
  unfold insertAssignments
  rw [hi]
  exact List.rel_append (List.rel_append (List.forall₂_take _ hs) ha) (List.forall₂_drop _ hs)

theorem Ident.mapNames_assignment {id : Ident ν} {id' : Ident μ} (h : id.mapNames f = .ok id') :
    id.assignment.mapNames f = .ok id'.assignment := by
  have hs := (Ident.mapNames_eq_ok_iff.1 h).2
  simp [Ident.assignment, Stmt.mapNames, Expr.mapNames, h, hs, bind, Except.bind, pure, Except.pure]

theorem Member.mapCtor_rel {g : Ctor ν → Ctor ν} {g' : Ctor μ → Ctor μ}
    (hg : ∀ c c', c.mapNames f = .ok c' → (g c).mapNames f = .ok (g' c')) {xs : List (Member ν)} {xs' : List (Member μ)}
    (h : List.Forall₂ (Yields (Member.mapNames f)) xs xs') :
    List.Forall₂ (Yields (Member.mapNames f)) (Member.mapCtor g xs) (Member.mapCtor g' xs') := by
  induction h with
  | nil => exact .nil
  | @cons x x' xs xs' hx hxs ih =>
    obtain ⟨c, c', rfl, rfl, hc⟩ | ⟨hn, hn'⟩ := Member.ctor_or hx
    · exact .cons (bind_eq_ok_iff.2 ⟨g' c', hg c c' hc, rfl⟩) hxs
    · rw [Member.mapCtor, Member.mapCtor]
      · exact .cons hx ih
      · exact hn'
      · exact hn

theorem ClassDecl.mapNames_mapCtor {g : Ctor ν → Ctor ν} {g' : Ctor μ → Ctor μ}
    (hg : ∀ c c', c.mapNames f = .ok c' → (g c).mapNames f = .ok (g' c')) {d : ClassDecl ν} {d' : ClassDecl μ}
    (h : d.mapNames f = .ok d') : (d.mapCtor g).mapNames f = .ok (d'.mapCtor g') := by
  obtain ⟨hd, hn, hb, hx, hs⟩ := ClassDecl.mapNames_eq_ok_iff.1 h
  exact ClassDecl.mapNames_eq_ok_iff.2 ⟨hd, hn, hb, Member.mapCtor_rel hg hx, hs⟩

end Promotion
