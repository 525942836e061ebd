import Mathlib.Data.List.Basic
import Promotion.Proofs.Syntax
/-!
# Renaming

A tree is its shape and its names.  The shape is the tree with nothing for names: it keeps spans, flags, operators,
numbers, the lengths of lists and what stands in what.  The names are listed in source order, each with what it is in
the tree (`Mention`).  Filling the names into the shape one after the other gives the tree back (`Fills.hereditary`), so
the two determine it (`Module.eq_of_shape_of_names`).

The walk that renames keeps the shape, and of the names it changes the identifiers, each once
(`Module.shape_rename`, `Module.mentions_rename`).  By the above this says everything about it.
-/
namespace Promotion

variable {ν : Type}

/-! ## Names and what they are -/

/-- A name of a tree: that of an identifier which a walk visits, a string literal, or a name in an export list. -/
inductive Mention (ν : Type) where
  | ident (name : ν)
  | literal (name : ν)
  | exported (name : ν)

namespace Mention

def name : Mention ν → ν
  | ident y | literal y | exported y => y

/-- The mention with `f` for the name of an identifier. -/
def rename (f : ν → ν) : Mention ν → Mention ν
  | ident y => ident (f y)
  | literal y => literal y
  | exported y => exported y

theorem rename_rename (f g : ν → ν) (x : Mention ν) : (x.rename f).rename g = x.rename (g ∘ f) := by
  cases x <;> rfl

theorem rename_id (x : Mention ν) : x.rename id = x := by
  cases x <;> rfl

end Mention

def Node.mentions : Node ν → List (Mention ν)
  | .ident id => [.ident id.name]
  | .expr (.str v _) => [.literal v]
  | .stmt (.exportNames ns _) => (ns.flatMap ExportName.idents).map (.exported ·.name)
  | _ => []

/-- The names of a module in source order. -/
def Module.mentions (p : Module ν) : List (Mention ν) := p.nodes.flatMap Node.mentions

/-- The module with nothing for names. -/
def Module.shape (p : Module ν) : Module Unit := Id.run (p.mapNames fun _ => pure ())

/-- The module after a walk that replaces the name of every identifier by what `f` makes of it. -/
def Module.rename (f : ν → ν) (p : Module ν) : Module ν := Id.run (p.visit (.rename f))

theorem Node.map_name_mentions (n : Node ν) : n.mentions.map Mention.name = n.names := by
  cases n with
  | ident id => rfl
  | expr e => cases e <;> rfl
  | stmt x =>
    cases x with
    | exportNames ns s =>
      simp only [Node.mentions, Node.names, List.map_map]
      rfl
    | _ => rfl
  | _ => rfl

theorem Node.mentions_eq_nil {n : Node ν} (h : n.names = []) : n.mentions = [] := by
  rw [← n.map_name_mentions] at h
  exact List.map_eq_nil_iff.1 h

theorem Module.map_name_mentions (p : Module ν) : p.mentions.map Mention.name = p.names := by
  unfold Module.mentions Module.names
  rw [List.map_flatMap]
  exact List.flatMap_congr fun n _ => n.map_name_mentions

/-! ## Shapes and what fills them -/

section Parts

variable {A B : Type → Type} [∀ ν, Part ν (A ν)] [∀ ν, Part ν (B ν)] [Syntax A] [Syntax B] {k : ∀ ν, A ν → B ν}

/-- The part with nothing for names. -/
def Syntax.shape (x : A ν) : A Unit := Id.run (Syntax.mapNames (fun _ => pure ()) x)

/-- The part after a walk that renames by `f`. -/
def Syntax.rename (f : ν → ν) (x : A ν) : A ν := Id.run (Syntax.walk (.rename f) x)

/-- The names of a part in source order. -/
def Part.mentions (x : A ν) : List (Mention ν) := (Part.nodes x).flatMap Node.mentions

/-- Takes the next name. -/
def nextName : Unit → StateT (List ν) Option ν := fun _ => fun
  | [] => none
  | y :: ys => some (y, ys)

/-- Filled into the shape of `x`, the names of `x` give `x`, and what follows them is left. -/
def Fills (A : Type → Type) [∀ ν, Part ν (A ν)] [Syntax A] (x : A ν) : Prop :=
  ∀ ys : List ν,
    (Syntax.mapNames nextName (Syntax.shape x)).run ((Part.mentions x).map Mention.name ++ ys) = some (x, ys)

namespace Plain

variable (hk : Plain k) (x : A ν)

include hk

theorem shape : Syntax.shape (k ν x) = k Unit (Syntax.shape x) := congrArg Id.run (hk.mapNames (m := Id) _ x)

theorem rename (f : ν → ν) : Syntax.rename f (k ν x) = k ν (Syntax.rename f x) :=
  congrArg Id.run (hk.walk (m := Id) (.rename f) x)

theorem mentions : Part.mentions (k ν x) = Part.mentions x := congrArg _ (hk.nodes x)

end Plain

namespace Headed

variable [Kind B] (hk : Headed k) (x : A ν)

include hk

theorem shape : Syntax.shape (k ν x) = k Unit (Syntax.shape x) := congrArg Id.run (hk.mapNames (m := Id) _ x)

theorem rename (f : ν → ν) : Syntax.rename f (k ν x) = k ν (Syntax.rename f x) := by
  have hw := hk.walk (m := Id) (.rename f) x
  rw [Kind.hook_rename, Step.follow_enter] at hw
  exact congrArg Id.run hw

theorem mentions : Part.mentions (k ν x) = Part.mentions x := by
  unfold Part.mentions
  rw [hk.nodes, List.flatMap_cons, Node.mentions_eq_nil (hk.names x), List.nil_append]

end Headed

omit [Syntax A] [Syntax B] in
theorem Part.mentions_prod (x : A ν) (y : B ν) :
    Part.mentions (A := fun ν => A ν × B ν) (x, y) = Part.mentions x ++ Part.mentions y :=
  List.flatMap_append

/-- A constructor around what is filled. -/
theorem Fills.map {x : A ν} (hs : Syntax.shape (k ν x) = k Unit (Syntax.shape x))
    (hf : ∀ u : A Unit, Syntax.mapNames (nextName (ν := ν)) (k Unit u) = k ν <$> Syntax.mapNames nextName u)
    (hm : Part.mentions (k ν x) = Part.mentions x) (hx : Fills A x) : Fills B (k ν x) := by
  intro ys
  rw [hs, hf, hm, StateT.run_map, hx ys]
  rfl

end Parts

/-! ### Export lists -/

namespace ExportName

/-- The entry with nothing for names. -/
def shape (n : ExportName ν) : ExportName Unit := Id.run (n.mapNames fun _ => pure ())

theorem fill_shape (n : ExportName ν) (ys : List ν) :
    (n.shape.mapNames nextName).run (n.idents.map (·.name) ++ ys) = some (n, ys) := by
  obtain ⟨id, a⟩ := n
  cases a <;> rfl

theorem fill_shapes (ns : List (ExportName ν)) (ys : List ν) :
    ((ns.map shape).mapM (mapNames nextName)).run ((ns.flatMap idents).map (·.name) ++ ys) = some (ns, ys) := by
  induction ns with
  | nil => rfl
  | cons n ns ih =>
    have hn := n.fill_shape ((ns.flatMap idents).map (·.name) ++ ys)
    rw [List.map_cons, List.mapM_cons, List.flatMap_cons, List.map_append, List.append_assoc, StateT.run_bind, hn]
    simp only [Option.bind_eq_bind, Option.bind_some, StateT.run_bind, ih]
    rfl

end ExportName

theorem Stmt.shape_exportNames (ns : List (ExportName ν)) (s : Span) :
    Syntax.shape (A := Stmt) (.exportNames ns s) = .exportNames (ns.map ExportName.shape) s := by
  have hm : Id.run (ns.mapM (ExportName.mapNames fun _ => pure ())) = ns.map ExportName.shape := by
    simp [ExportName.shape]
  exact congrArg (Stmt.exportNames · s) hm

theorem Stmt.mentions_exportNames (ns : List (ExportName ν)) (s : Span) :
    Part.mentions (A := Stmt) (.exportNames ns s) = (ns.flatMap ExportName.idents).map (.exported ·.name) :=
  List.append_nil _

/-! ### The three laws -/

/-- **The names of a tree, filled into its shape, give the tree.** -/
theorem Fills.hereditary : Hereditary fun A [∀ ν, Part ν (A ν)] [Syntax A] (x : A ν) => Fills A x where
  noParts _ := rfl
  ident _ _ := rfl
  str _ _ _ := rfl
  exportNames ns s ys := by
    have hm : Syntax.mapNames (A := Stmt) (nextName (ν := ν)) (.exportNames (ns.map ExportName.shape) s) =
        (Stmt.exportNames · s) <$> (ns.map ExportName.shape).mapM (ExportName.mapNames nextName) :=
      (map_eq_pure_bind (Stmt.exportNames · s) ((ns.map ExportName.shape).mapM (ExportName.mapNames nextName))).symm
    have hf := ExportName.fill_shapes ns ys
    rw [Stmt.shape_exportNames, hm, Stmt.mentions_exportNames, List.map_map, StateT.run_map]
    exact congrArg (Option.map fun r => (Stmt.exportNames r.1 s, r.2)) hf
  classDef d hd := .map (k := fun _ d => Stmt.classDef d) rfl
    (fun d => (map_eq_pure_bind Stmt.classDef (d.mapNames nextName)).symm) rfl hd
  prod := by
    intro A B _ _ _ _ x y hx hy ys
    have hm : Syntax.mapNames (A := fun ν => A ν × B ν) (nextName (ν := ν)) (Syntax.shape x, Syntax.shape y) =
        do return (← Syntax.mapNames nextName (Syntax.shape x), ← Syntax.mapNames nextName (Syntax.shape y)) := rfl
    have hs : Syntax.shape (A := fun ν => A ν × B ν) (x, y) = (Syntax.shape x, Syntax.shape y) := rfl
    rw [hs, hm, Part.mentions_prod, List.map_append, List.append_assoc, StateT.run_bind, hx]
    simp [hy ys]
  plain hk x hx := .map (hk.shape x) (hk.mapNames nextName) (hk.mentions x) hx
  headed hk x hx := .map (hk.shape x) (hk.mapNames nextName) (hk.mentions x) hx

/-- **Renaming keeps the shape.** -/
theorem Hereditary.shape_rename (f : ν → ν) : Hereditary fun A [∀ ν, Part ν (A ν)] [Syntax A] (x : A ν) =>
    Syntax.shape (Syntax.rename f x) = Syntax.shape x where
  noParts := rfl
  ident _ := rfl
  str _ _ := rfl
  exportNames _ _ := rfl
  classDef d hd := congrArg Stmt.classDef hd
  prod hx hy := congrArg₂ Prod.mk hx hy
  plain hk x hx := by rw [hk.rename, hk.shape, hk.shape, hx]
  headed hk x hx := by rw [hk.rename, hk.shape, hk.shape, hx]

/-- **Renaming applies `f` to the identifiers, to each once, and to no other name.** -/
theorem Hereditary.mentions_rename (f : ν → ν) : Hereditary fun A [∀ ν, Part ν (A ν)] [Syntax A] (x : A ν) =>
    Part.mentions (Syntax.rename f x) = (Part.mentions x).map (Mention.rename f) where
  noParts := rfl
  ident _ := rfl
  str _ _ := rfl
  exportNames ns s := by
    have hr : Syntax.rename f (A := Stmt) (.exportNames ns s) = .exportNames ns s := rfl
    rw [hr, Stmt.mentions_exportNames, List.map_map]
    rfl
  classDef d hd := hd
  prod {A B _ _ _ _ x y} hx hy := by
    have hr : Syntax.rename f (A := fun ν => A ν × B ν) (x, y) = (Syntax.rename f x, Syntax.rename f y) := rfl
    rw [hr, Part.mentions_prod, Part.mentions_prod, hx, hy, List.map_append]
  plain hk x hx := by rw [hk.rename, hk.mentions, hk.mentions, hx]
  headed hk x hx := by rw [hk.rename, hk.mentions, hk.mentions, hx]

/-! ## Modules -/

namespace Module

/-- **A tree is its shape and its names.** -/
theorem eq_of_shape_of_names {p q : Module ν} (hs : q.shape = p.shape) (hn : q.names = p.names) : q = p := by
  have hp : (p.shape.mapNames nextName).run (p.mentions.map Mention.name ++ []) = some (p, []) :=
    p.hereditary Fills.hereditary []
  have hq : (q.shape.mapNames nextName).run (q.mentions.map Mention.name ++ []) = some (q, []) :=
    q.hereditary Fills.hereditary []
  rw [map_name_mentions] at hp hq
  rw [hs, hn, hp] at hq
  exact (Prod.mk.inj (Option.some.inj hq)).1.symm

theorem shape_rename (f : ν → ν) (p : Module ν) : (p.rename f).shape = p.shape :=
  p.hereditary (Hereditary.shape_rename f)

theorem mentions_rename (f : ν → ν) (p : Module ν) : (p.rename f).mentions = p.mentions.map (Mention.rename f) :=
  p.hereditary (Hereditary.mentions_rename f)

theorem rename_eq_iff {f : ν → ν} {p q : Module ν} :
    p.rename f = q ↔ q.shape = p.shape ∧ q.mentions = p.mentions.map (Mention.rename f) := by
  constructor
  · rintro rfl
    exact ⟨p.shape_rename f, p.mentions_rename f⟩
  · rintro ⟨hs, hm⟩
    apply eq_of_shape_of_names
    · rw [shape_rename, hs]
    · rw [← map_name_mentions, ← map_name_mentions, mentions_rename, hm]

/-- **A walk that renames is a map over the identifiers.**  It gives the one module of the same shape (spans, flags,
operators, numbers and lists as they were) whose names are the same but for the identifiers, to each of which `f` was
applied once; string literals and the names in export lists stay.  So renaming twice is renaming by the composition, and
renaming by the identity changes nothing. -/
theorem rename_eq_map (f g : ν → ν) (p : Module ν) :
    (∀ q : Module ν,
      Id.run (p.visit (.rename f)) = q ↔ q.shape = p.shape ∧ q.mentions = p.mentions.map (Mention.rename f)) ∧
    (p.rename f).rename g = p.rename (g ∘ f) ∧ p.rename id = p := by
  refine ⟨fun q => rename_eq_iff, ?_, ?_⟩
  · apply Eq.symm
    rw [rename_eq_iff]
    constructor
    · rw [shape_rename, shape_rename]
    · simp only [mentions_rename, List.map_map]
      exact List.map_congr_left fun x _ => x.rename_rename f g
  · rw [rename_eq_iff]
    refine ⟨rfl, ?_⟩
    rw [List.map_congr_left fun x _ => x.rename_id, List.map_id']

end Module

end Promotion
