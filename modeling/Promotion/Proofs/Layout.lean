import Mathlib.Data.List.Forall2
import Promotion.Proofs.Syntax
/-!
# Trees as contexts around classes

A run changes classes and nothing else, so all it needs to know of a tree is which classes stand in it outermost and
what the tree is like with other classes in their places.  A `Context` is a tree with places for `n` classes, and
`Layout x` says that `x` is a context filled with classes.  In a context, a walk with a hook for classes alone,
`mapClasses` and the listing of the classes all come down to the list of classes that fills it.

Mapping the names of a tree keeps the places.  `NamedLayout` is a layout of a tree together with one of the tree under
other names, such that the classes in the places of the second are those of the first under these names.

Every tree has a layout (`NamedLayout.hereditary`): a leaf has no place for a class, a constructor puts the contexts of
its parts side by side, and a class declaration is a place.  Whatever is proved of classes afterwards is about lists.
-/
namespace Promotion

variable {ν : Type} {m : Type → Type} [Monad m]

/-! ## Contexts

`Fits` is what makes a function a context for one walk: walking the filled context is acting on the classes that fill
it, one after the other, and filling it with the results. -/

def Fits {α : Type} (n : Nat) (fill : List (ClassDecl ν) → α) (walk : α → m α)
    (act : ClassDecl ν → m (ClassDecl ν)) : Prop :=
  ∀ ds : List (ClassDecl ν), ds.length = n → walk (fill ds) = fill <$> ds.mapM act

/-- A tree with places for `n` classes: what the recursions do to it is decided by the classes in the places. -/
structure Context {α : Type} [Part ν α] (n : Nat) (fill : List (ClassDecl ν) → α) : Prop where
  visit {m : Type → Type} [Monad m] [LawfulMonad m] (hook : ClassDecl ν → m (Step (ClassDecl ν))) :
    Fits n fill (Part.visit hook) (ClassDecl.visit (.onlyClass hook))
  mapClasses {m : Type → Type} [Monad m] [LawfulMonad m] (f : ClassDecl ν → m (ClassDecl ν)) :
    Fits n fill (Part.mapClasses f) (ClassDecl.mapClasses f)
  classes (ds : List (ClassDecl ν)) : ds.length = n → Part.classes (fill ds) = ds.flatMap ClassDecl.classDecls

/-- A tree is a context filled with the classes that stand in it outermost. -/
def Layout {α : Type} [Part ν α] (x : α) : Prop :=
  ∃ (cs : List (ClassDecl ν)) (fill : List (ClassDecl ν) → α), Context cs.length fill ∧ fill cs = x

/-- A part with no place for a class. -/
structure Part.Leaf {α : Type} [Part ν α] (x : α) : Prop where
  visit {m : Type → Type} [Monad m] [LawfulMonad m] (hook : ClassDecl ν → m (Step (ClassDecl ν))) :
    Part.visit hook x = pure x := by intros; rfl
  mapClasses {m : Type → Type} [Monad m] [LawfulMonad m] (f : ClassDecl ν → m (ClassDecl ν)) :
    Part.mapClasses f x = pure x := by intros; rfl
  classes : Part.classes x = [] := by rfl

/-- A constructor that puts a node around a part: the recursions go through it to the part. -/
structure Part.Wrap {α β : Type} [Part ν α] [Part ν β] (k : α → β) : Prop where
  visit {m : Type → Type} [Monad m] [LawfulMonad m] (hook : ClassDecl ν → m (Step (ClassDecl ν))) (x : α) :
    Part.visit hook (k x) = k <$> Part.visit hook x
  mapClasses {m : Type → Type} [Monad m] [LawfulMonad m] (f : ClassDecl ν → m (ClassDecl ν)) (x : α) :
    Part.mapClasses f (k x) = k <$> Part.mapClasses f x
  classes (x : α) : Part.classes (k x) = Part.classes x

section Constructors

variable {A B : Type → Type} [∀ ν, Part ν (A ν)] [∀ ν, Part ν (B ν)] [Syntax A] [Syntax B] {k : ∀ ν, A ν → B ν}

theorem Plain.wrap (hk : Plain k) : Part.Wrap (k ν) where
  visit hook x := by rw [← Syntax.walk_onlyClass, hk.walk, Syntax.walk_onlyClass]
  mapClasses := hk.mapClasses
  classes x := by rw [Part.classes, hk.nodes, Part.classes]

theorem Headed.wrap [Kind B] (hk : Headed k) : Part.Wrap (k ν) where
  visit hook x := by
    rw [← Syntax.walk_onlyClass, hk.walk, Kind.hook_onlyClass, Step.follow_enter, Syntax.walk_onlyClass]
  mapClasses := hk.mapClasses
  classes x := by rw [Part.classes, hk.nodes, Node.classes_cons, Kind.class?_node, Part.classes]; rfl

end Constructors

section Fits

variable [LawfulMonad m] {α β : Type}

/-- The results of `mapM` are as many as its arguments, so what follows may count on that. -/
theorem bind_mapM_congr {γ : Type} (f : α → m β) : ∀ (as : List α) (k k' : List β → m γ),
    (∀ bs, bs.length = as.length → k bs = k' bs) → (as.mapM f >>= k) = (as.mapM f >>= k')
  | [], k, k', h => by simpa using h [] rfl
  | a :: as, k, k', h => by
    simp only [List.mapM_cons, bind_assoc, pure_bind]
    congr 1
    funext b
    exact bind_mapM_congr f as _ _ fun bs hbs => h (b :: bs) (by simp [hbs])

theorem Fits.prod {n n' : Nat} {fill : List (ClassDecl ν) → α} {fill' : List (ClassDecl ν) → β} {walk : α → m α}
    {walk' : β → m β} {act : ClassDecl ν → m (ClassDecl ν)} (h : Fits n fill walk act) (h' : Fits n' fill' walk' act) :
    Fits (n + n') (fun ds => (fill (ds.take n), fill' (ds.drop n)))
      (fun p => do return (← walk p.1, ← walk' p.2)) act := by
  intro ds hds
  have ht : (ds.take n).length = n := by rw [List.length_take]; omega
  have hd : (ds.drop n).length = n' := by rw [List.length_drop]; omega
  simp only [h _ ht, h' _ hd]
  conv => rhs; rw [← List.take_append_drop n ds]
  simp only [List.mapM_append, map_eq_pure_bind, bind_assoc, pure_bind]
  -- the two sides differ in where they cut the results, and the first ones are `n`
  refine bind_mapM_congr act _ _ _ fun es hes => ?_
  rw [ht] at hes
  simp [← hes]

theorem Fits.map {n : Nat} {fill : List (ClassDecl ν) → α} {walk : α → m α} {walk' : β → m β}
    {act : ClassDecl ν → m (ClassDecl ν)} {k : α → β} (h : Fits n fill walk act)
    (hk : ∀ x, walk' (k x) = k <$> walk x) : Fits n (k ∘ fill) walk' act := by
  intro ds hds
  rw [Function.comp_apply, hk, h ds hds, comp_map]

end Fits

namespace Context

variable {α β : Type} [Part ν α] [Part ν β]

theorem leaf {x : α} (hx : Part.Leaf x) : Context 0 fun _ => x := by
  refine ⟨fun hook ds hds => ?_, fun f ds hds => ?_, fun ds hds => ?_⟩
  all_goals obtain rfl := List.length_eq_zero_iff.1 hds
  · simp [hx.visit]
  · simp [hx.mapClasses]
  · exact hx.classes

theorem prod {n n' : Nat} {fill : List (ClassDecl ν) → α} {fill' : List (ClassDecl ν) → β} (hf : Context n fill)
    (hf' : Context n' fill') : Context (n + n') fun ds => (fill (ds.take n), fill' (ds.drop n)) := by
  refine ⟨fun hook => (hf.visit hook).prod (hf'.visit hook), fun f => (hf.mapClasses f).prod (hf'.mapClasses f), ?_⟩
  intro es hes
  have h : Part.classes (fill (es.take n)) = (es.take n).flatMap ClassDecl.classDecls :=
    hf.classes _ (by rw [List.length_take]; omega)
  have h' : Part.classes (fill' (es.drop n)) = (es.drop n).flatMap ClassDecl.classDecls :=
    hf'.classes _ (by rw [List.length_drop]; omega)
  calc Part.classes (fill (es.take n), fill' (es.drop n))
    _ = Part.classes (fill (es.take n)) ++ Part.classes (fill' (es.drop n)) := Node.classes_append _ _
    _ = es.flatMap ClassDecl.classDecls := by rw [h, h', ← List.flatMap_append, List.take_append_drop]

theorem map {n : Nat} {fill : List (ClassDecl ν) → α} (hf : Context n fill) {k : α → β} (hk : Part.Wrap k) :
    Context n (k ∘ fill) := by
  refine ⟨fun hook => (hf.visit hook).map (hk.visit hook), fun f => (hf.mapClasses f).map (hk.mapClasses f), ?_⟩
  intro ds hds
  rw [Function.comp_apply, hk.classes, hf.classes ds hds]

theorem classDef (d : ClassDecl ν) : Context 1 fun ds => Stmt.classDef (ds.headD d) := by
  refine ⟨fun hook ds hds => ?_, fun f ds hds => ?_, fun ds hds => ?_⟩
  all_goals obtain ⟨c, rfl⟩ := List.length_eq_one_iff.1 hds
  · simp [Part.visit, Stmt.descend, ClassDecl.visit]
  · simp [Part.mapClasses, Stmt.mapClasses, ClassDecl.mapClasses]
  · simp [Part.classes, Part.nodes, Stmt.nodes, Node.classes_cons, Node.class?, ClassDecl.classDecls]

end Context

/-! ## Layouts and names -/

section Named

variable {ε μ : Type} {f : ν → Except ε μ}

/-- `b` is what `act` comes to on `a`. -/
abbrev Yields {α β : Type} (act : α → Except ε β) (a : α) (b : β) : Prop := act a = .ok b

theorem bind_eq_ok_iff {α β : Type} {x : Except ε α} {g : α → Except ε β} {b : β} :
    x >>= g = .ok b ↔ ∃ a, x = .ok a ∧ g a = .ok b := by
  cases x with
  | error e => simp [bind, Except.bind]
  | ok a => simp [bind, Except.bind]

theorem map_eq_ok_iff {α β : Type} {x : Except ε α} {g : α → β} {b : β} :
    g <$> x = .ok b ↔ ∃ a, x = .ok a ∧ g a = b := by
  cases x with
  | error e => simp [Functor.map, Except.map]
  | ok a => simp [Functor.map, Except.map]

/-- `x` is a context filled with classes, and if `walk` maps the names of `x` by `f`, then what it makes of `x` is a
context filled with what `f` makes of these classes.  The same holds with other classes in the places. -/
def NamedLayout (A : Type → Type) [∀ ν, Part ν (A ν)] (f : ν → Except ε μ) (walk : A ν → Except ε (A μ)) (x : A ν) :
    Prop :=
  ∃ (cs : List (ClassDecl ν)) (fill : List (ClassDecl ν) → A ν), Context cs.length fill ∧ fill cs = x ∧
    ∀ x', walk x = .ok x' →
      ∃ (cs' : List (ClassDecl μ)) (fill' : List (ClassDecl μ) → A μ), Context cs.length fill' ∧ fill' cs' = x' ∧
        List.Forall₂ (Yields (ClassDecl.mapNames f)) cs cs' ∧
        ∀ ds ds', ds.length = cs.length → List.Forall₂ (Yields (ClassDecl.mapNames f)) ds ds' →
          walk (fill ds) = .ok (fill' ds')

namespace NamedLayout

variable {A B : Type → Type} [∀ ν, Part ν (A ν)] [∀ ν, Part ν (B ν)] {walk : A ν → Except ε (A μ)}
  {walk' : B ν → Except ε (B μ)}

theorem leaf {x : A ν} (hx : Part.Leaf x) (hx' : ∀ x', walk x = .ok x' → Part.Leaf x') : NamedLayout A f walk x := by
  refine ⟨[], fun _ => x, .leaf hx, rfl, fun x' h => ⟨[], fun _ => x', .leaf (hx' x' h), rfl, .nil, ?_⟩⟩
  exact fun _ _ _ _ => h

theorem prod {x : A ν} {y : B ν} (hx : NamedLayout A f walk x) (hy : NamedLayout B f walk' y) :
    NamedLayout (fun ν => A ν × B ν) f (fun p => do return (← walk p.1, ← walk' p.2)) (x, y) := by
  obtain ⟨cs, fx, hfx, rfl, hx⟩ := hx
  obtain ⟨ds, fy, hfy, rfl, hy⟩ := hy
  refine ⟨cs ++ ds, _, by rw [List.length_append]; exact hfx.prod hfy, by simp, fun z h => ?_⟩
  obtain ⟨x', hx', h⟩ := bind_eq_ok_iff.1 h
  obtain ⟨y', hy', h⟩ := bind_eq_ok_iff.1 h
  obtain rfl : (x', y') = z := Except.ok.inj h
  obtain ⟨cs', fx', hfx', rfl, hc, hx⟩ := hx x' hx'
  obtain ⟨ds', fy', hfy', rfl, hd, hy⟩ := hy y' hy'
  refine ⟨cs' ++ ds', _, by rw [List.length_append]; exact hfx'.prod hfy', ?_, List.rel_append hc hd, ?_⟩
  · simp [hc.length_eq]
  · intro es es' hl he
    rw [List.length_append] at hl
    have h₁ := hx _ _ (by rw [List.length_take]; omega) (List.forall₂_take cs.length he)
    have h₂ := hy _ _ (by rw [List.length_drop]; omega) (List.forall₂_drop cs.length he)
    simp only [h₁, h₂]
    rfl

theorem map {k : ∀ ν, A ν → B ν} (hk : ∀ ν, Part.Wrap (k ν)) (hn : ∀ x, walk' (k ν x) = k μ <$> walk x) {x : A ν}
    (hx : NamedLayout A f walk x) : NamedLayout B f walk' (k ν x) := by
  obtain ⟨cs, fill, hf, rfl, hx⟩ := hx
  refine ⟨cs, k ν ∘ fill, hf.map (hk ν), rfl, fun z h => ?_⟩
  rw [hn] at h
  obtain ⟨x', hx', rfl⟩ := map_eq_ok_iff.1 h
  obtain ⟨cs', fill', hf', rfl, hc, hx⟩ := hx x' hx'
  refine ⟨cs', k μ ∘ fill', hf'.map (hk μ), rfl, hc, fun ds ds' hl hd => ?_⟩
  rw [Function.comp_apply, hn, hx ds ds' hl hd]
  rfl

theorem classDef (d : ClassDecl ν) : NamedLayout Stmt f (Stmt.mapNames f) (Stmt.classDef d) := by
  refine ⟨[d], _, .classDef d, rfl, fun z h => ?_⟩
  obtain ⟨d', hd, h⟩ := bind_eq_ok_iff.1 h
  obtain rfl : Stmt.classDef d' = z := Except.ok.inj h
  refine ⟨[d'], _, .classDef d', rfl, .cons hd .nil, fun ds ds' hl h => ?_⟩
  obtain ⟨c, rfl⟩ := List.length_eq_one_iff.1 hl
  obtain ⟨c', cs', hc, hcs, rfl⟩ := List.forall₂_cons_left_iff.1 h
  obtain rfl := List.forall₂_nil_left_iff.1 hcs
  simp only [Stmt.mapNames, List.headD_cons, hc]
  rfl

theorem layout {x : A ν} (hx : NamedLayout A f walk x) : Layout x := by
  obtain ⟨cs, fill, hf, rfl, -⟩ := hx
  exact ⟨cs, fill, hf, rfl⟩

variable (f)

/-- **Every tree has a layout, under any names.** -/
theorem hereditary : Hereditary fun A [∀ ν, Part ν (A ν)] [Syntax A] (x : A ν) =>
    NamedLayout A f (Syntax.mapNames f) x where
  noParts := leaf {} fun _ _ => {}
  ident _ := leaf {} fun _ _ => {}
  str y s := leaf {} fun x' h => by
    obtain ⟨y', -, rfl⟩ := map_eq_ok_iff.1 ((map_eq_pure_bind (Expr.str · s) _).trans h)
    exact {}
  exportNames ns s := leaf {} fun x' h => by
    obtain ⟨ns', -, rfl⟩ := map_eq_ok_iff.1 ((map_eq_pure_bind (Stmt.exportNames · s) _).trans h)
    exact {}
  classDef d _ := classDef d
  prod := prod
  plain hk _ hx := map (fun _ => hk.wrap) (hk.mapNames f) hx
  headed hk _ hx := map (fun _ => hk.wrap) (hk.mapNames f) hx

end NamedLayout

variable (f)

theorem ClassDecl.named (d : ClassDecl ν) : NamedLayout ClassDecl f (ClassDecl.mapNames f) d :=
  d.hereditary (NamedLayout.hereditary f)

theorem Module.named (p : Module ν) : NamedLayout Module f (Module.mapNames f) p :=
  p.hereditary (NamedLayout.hereditary f)

end Named

theorem ClassDecl.layout (d : ClassDecl ν) : Layout d := (d.named fun y => (.ok y : Except Empty ν)).layout

theorem Module.layout (p : Module ν) : Layout p := (p.named fun y => (.ok y : Except Empty ν)).layout

end Promotion
