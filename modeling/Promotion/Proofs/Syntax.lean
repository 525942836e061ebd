import Mathlib.Tactic.Simps.Basic
import Promotion.Proofs.BottomUp
import Promotion.Proofs.Nodes
import Promotion.Tree.Names
import Promotion.Tree.Visit
/-!
# Induction over the syntax

The types of the tree refer to one another, and a function on trees comes as a family with a member for each of them.
What such a family does at a constructor is nearly always the same: it goes through the parts of the node from left to
right and puts the node around what it got.  `Part` and `Syntax` say what the families are on each type, `Plain` and
`Headed` say that a constructor is of this common kind, and `Hereditary` is an induction hypothesis for all types at
once: a property of a pair of parts and of a node around parts, whatever the constructor, is a property of every tree.

Three constructors are not of the common kind: a string literal and an export list hold names by themselves, and a class
declaration is where walks that look for classes stop.
-/
namespace Promotion

variable {ν : Type} {m : Type → Type} [Monad m]

/-- Enters every node but the classes, and leaves these to `hook`. -/
@[simps]
def Visitor.onlyClass (hook : ClassDecl ν → m (Step (ClassDecl ν))) : Visitor m ν where
  onModule _ := return .enter
  onStmt _ := return .enter
  onVar _ := return .enter
  onFunction _ := return .enter
  onClass := hook
  onMember _ := return .enter
  onParam _ := return .enter
  onDecorator _ := return .enter
  onBlock _ := return .enter
  onExpr _ := return .enter
  onArrow _ := return .enter
  onPattern _ := return .enter
  onIdent id := return id

/-- Does `start` at a module and `note` at every other node, and enters them all. -/
@[simps]
def Visitor.noting (start : Module ν → m Unit) (note : Node ν → m Unit) : Visitor m ν where
  onModule p := do start p; return .enter
  onStmt x := do note (.stmt x); return .enter
  onVar d := do note (.var d); return .enter
  onFunction d := do note (.function d); return .enter
  onClass d := do note (.classDecl d); return .enter
  onMember x := do note (.member x); return .enter
  onParam p := do note (.param p); return .enter
  onDecorator d := do note (.decorator d); return .enter
  onBlock b := do note (.block b); return .enter
  onExpr e := do note (.expr e); return .enter
  onArrow f := do note (.arrow f); return .enter
  onPattern p := do note (.pattern p); return .enter
  onIdent id := do note (.ident id); return id

def ClassDecl.visit (v : Visitor m ν) (d : ClassDecl ν) : m (ClassDecl ν) := Step.follow (v.onClass d) (d.descend v)

@[simp]
theorem Step.follow_enter [LawfulMonad m] {α : Type} (x : m α) : Step.follow (pure .enter) x = x := by
  simp [Step.follow]

@[simp]
theorem Ident.visitOpt_onlyClass [LawfulMonad m] (hook : ClassDecl ν → m (Step (ClassDecl ν))) :
    ∀ id : Option (Ident ν), Ident.visitOpt (.onlyClass hook) id = pure id
  | none => rfl
  | some id => by simp [Ident.visitOpt]

/-! ## Parts of a tree

What the recursions are on each type of the syntax and on its lists.  For a class they stay inside it: what happens to
the class itself is up to whoever found it. -/

class Part (ν : outParam Type) (α : Type) where
  visit : {m : Type → Type} → [Monad m] → (ClassDecl ν → m (Step (ClassDecl ν))) → α → m α
  mapClasses : {m : Type → Type} → [Monad m] → (ClassDecl ν → m (ClassDecl ν)) → α → m α
  nodes : α → List (Node ν)

/-- The classes in a part, at any depth. -/
def Part.classes {α : Type} [Part ν α] (x : α) : List (ClassDecl ν) := Node.classes (Part.nodes x)

/-- The part with `g d` for each class `d` that stands in it outermost. -/
def Part.replace {α : Type} [Part ν α] (g : ClassDecl ν → ClassDecl ν) (x : α) : α :=
  Id.run (Part.visit (fun d => pure (.replace (g d))) x)

instance : Part ν (Expr ν) := ⟨fun h => Expr.descend (.onlyClass h), Expr.mapClasses, Expr.nodes⟩
instance : Part ν (List (Expr ν)) := ⟨fun h => Expr.visitAll (.onlyClass h), Expr.mapClassesAll, Expr.nodesAll⟩
instance : Part ν (Option (Expr ν)) := ⟨fun h => Expr.visitOpt (.onlyClass h), Expr.mapClassesOpt, Expr.nodesOpt⟩
instance : Part ν (Arrow ν) := ⟨fun h => Arrow.descend (.onlyClass h), Arrow.mapClasses, Arrow.nodes⟩
instance : Part ν (ArrowBody ν) := ⟨fun h => ArrowBody.visit (.onlyClass h), ArrowBody.mapClasses, ArrowBody.nodes⟩
instance : Part ν (Pattern ν) := ⟨fun h => Pattern.descend (.onlyClass h), Pattern.mapClasses, Pattern.nodes⟩
instance : Part ν (Option (Pattern ν)) :=
  ⟨fun h => Pattern.visitOpt (.onlyClass h), Pattern.mapClassesOpt, Pattern.nodesOpt⟩
instance : Part ν (Slot ν) := ⟨fun h => Slot.visit (.onlyClass h), Slot.mapClasses, Slot.nodes⟩
instance : Part ν (List (Slot ν)) := ⟨fun h => Slot.visitAll (.onlyClass h), Slot.mapClassesAll, Slot.nodesAll⟩
instance : Part ν (PropertyPattern ν) :=
  ⟨fun h => PropertyPattern.visit (.onlyClass h), PropertyPattern.mapClasses, PropertyPattern.nodes⟩
instance : Part ν (List (PropertyPattern ν)) :=
  ⟨fun h => PropertyPattern.visitAll (.onlyClass h), PropertyPattern.mapClassesAll, PropertyPattern.nodesAll⟩
instance : Part ν (Param ν) := ⟨fun h => Param.descend (.onlyClass h), Param.mapClasses, Param.nodes⟩
instance : Part ν (List (Param ν)) := ⟨fun h => Param.visitAll (.onlyClass h), Param.mapClassesAll, Param.nodesAll⟩
instance : Part ν (Decorator ν) := ⟨fun h => Decorator.descend (.onlyClass h), Decorator.mapClasses, Decorator.nodes⟩
instance : Part ν (List (Decorator ν)) :=
  ⟨fun h => Decorator.visitAll (.onlyClass h), Decorator.mapClassesAll, Decorator.nodesAll⟩
instance : Part ν (Block ν) := ⟨fun h => Block.descend (.onlyClass h), Block.mapClasses, Block.nodes⟩
instance : Part ν (Option (Block ν)) := ⟨fun h => Block.visitOpt (.onlyClass h), Block.mapClassesOpt, Block.nodesOpt⟩
instance : Part ν (VarDecl ν) := ⟨fun h => VarDecl.descend (.onlyClass h), VarDecl.mapClasses, VarDecl.nodes⟩
instance : Part ν (FunctionDecl ν) :=
  ⟨fun h => FunctionDecl.descend (.onlyClass h), FunctionDecl.mapClasses, FunctionDecl.nodes⟩
instance : Part ν (ClassDecl ν) := ⟨fun h => ClassDecl.descend (.onlyClass h), ClassDecl.mapInside, ClassDecl.inside⟩
instance : Part ν (Member ν) := ⟨fun h => Member.descend (.onlyClass h), Member.mapClasses, Member.nodes⟩
instance : Part ν (List (Member ν)) := ⟨fun h => Member.visitAll (.onlyClass h), Member.mapClassesAll, Member.nodesAll⟩
instance : Part ν (Ctor ν) := ⟨fun h => Ctor.visit (.onlyClass h), Ctor.mapClasses, Ctor.nodes⟩
instance : Part ν (Stmt ν) := ⟨fun h => Stmt.descend (.onlyClass h), Stmt.mapClasses, Stmt.nodes⟩
instance : Part ν (List (Stmt ν)) := ⟨fun h => Stmt.visitAll (.onlyClass h), Stmt.mapClassesAll, Stmt.nodesAll⟩
instance : Part ν (Option (Stmt ν)) := ⟨fun h => Stmt.visitOpt (.onlyClass h), Stmt.mapClassesOpt, Stmt.nodesOpt⟩
instance : Part ν (Module ν) := ⟨fun h => Module.descend (.onlyClass h), Module.mapClasses, Module.nodes⟩

/-- Two parts, the first of them first. -/
instance {α β : Type} [Part ν α] [Part ν β] : Part ν (α × β) where
  visit hook p := do return (← Part.visit hook p.1, ← Part.visit hook p.2)
  mapClasses f p := do return (← Part.mapClasses f p.1, ← Part.mapClasses f p.2)
  nodes p := Part.nodes p.1 ++ Part.nodes p.2

/-! Names are parts too, and what a leaf has for parts is one more. -/

/-- The parts of a leaf. -/
structure NoParts (ν : Type)

instance : Part ν (Ident ν) := ⟨fun _ => pure, fun _ => pure, fun id => [.ident id]⟩
instance : Part ν (Option (Ident ν)) := ⟨fun _ => pure, fun _ => pure, fun id => id.toList.map .ident⟩
instance : Part ν (NoParts ν) := ⟨fun _ => pure, fun _ => pure, fun _ => []⟩

/-- A kind of part, for trees with any names: how a visitor walks it, its own hook included, and how its names are
mapped. -/
class Syntax (A : Type → Type) [∀ ν, Part ν (A ν)] where
  walk : {m : Type → Type} → [Monad m] → {ν : Type} → Visitor m ν → A ν → m (A ν)
  mapNames : {m : Type → Type} → [Monad m] → {ν μ : Type} → (ν → m μ) → A ν → m (A μ)
  walk_onlyClass {m : Type → Type} [Monad m] [LawfulMonad m] {ν : Type} (hook : ClassDecl ν → m (Step (ClassDecl ν)))
    (x : A ν) : walk (.onlyClass hook) x = Part.visit hook x

instance : Syntax Expr :=
  ⟨fun v x => Step.follow (v.onExpr x) (x.descend v), Expr.mapNames, fun _ _ => Step.follow_enter _⟩
instance : Syntax (fun ν => List (Expr ν)) := ⟨Expr.visitAll, Expr.mapNamesAll, fun _ _ => rfl⟩
instance : Syntax (fun ν => Option (Expr ν)) := ⟨Expr.visitOpt, Expr.mapNamesOpt, fun _ _ => rfl⟩
instance : Syntax Arrow :=
  ⟨fun v x => Step.follow (v.onArrow x) (x.descend v), Arrow.mapNames, fun _ _ => Step.follow_enter _⟩
instance : Syntax ArrowBody := ⟨ArrowBody.visit, ArrowBody.mapNames, fun _ _ => rfl⟩
instance : Syntax Pattern :=
  ⟨fun v x => Step.follow (v.onPattern x) (x.descend v), Pattern.mapNames, fun _ _ => Step.follow_enter _⟩
instance : Syntax (fun ν => Option (Pattern ν)) := ⟨Pattern.visitOpt, Pattern.mapNamesOpt, fun _ _ => rfl⟩
instance : Syntax Slot := ⟨Slot.visit, Slot.mapNames, fun _ _ => rfl⟩
instance : Syntax (fun ν => List (Slot ν)) := ⟨Slot.visitAll, Slot.mapNamesAll, fun _ _ => rfl⟩
instance : Syntax PropertyPattern := ⟨PropertyPattern.visit, PropertyPattern.mapNames, fun _ _ => rfl⟩
instance : Syntax (fun ν => List (PropertyPattern ν)) :=
  ⟨PropertyPattern.visitAll, PropertyPattern.mapNamesAll, fun _ _ => rfl⟩
instance : Syntax Param :=
  ⟨fun v x => Step.follow (v.onParam x) (x.descend v), Param.mapNames, fun _ _ => Step.follow_enter _⟩
instance : Syntax (fun ν => List (Param ν)) := ⟨Param.visitAll, Param.mapNamesAll, fun _ _ => rfl⟩
instance : Syntax Decorator :=
  ⟨fun v x => Step.follow (v.onDecorator x) (x.descend v), Decorator.mapNames, fun _ _ => Step.follow_enter _⟩
instance : Syntax (fun ν => List (Decorator ν)) := ⟨Decorator.visitAll, Decorator.mapNamesAll, fun _ _ => rfl⟩
instance : Syntax Block :=
  ⟨fun v x => Step.follow (v.onBlock x) (x.descend v), Block.mapNames, fun _ _ => Step.follow_enter _⟩
instance : Syntax (fun ν => Option (Block ν)) := ⟨Block.visitOpt, Block.mapNamesOpt, fun _ _ => rfl⟩
instance : Syntax VarDecl :=
  ⟨fun v x => Step.follow (v.onVar x) (x.descend v), VarDecl.mapNames, fun _ _ => Step.follow_enter _⟩
instance : Syntax FunctionDecl :=
  ⟨fun v x => Step.follow (v.onFunction x) (x.descend v), FunctionDecl.mapNames, fun _ _ => Step.follow_enter _⟩
instance : Syntax ClassDecl := ⟨ClassDecl.descend, ClassDecl.mapNames, fun _ _ => rfl⟩
instance : Syntax Member :=
  ⟨fun v x => Step.follow (v.onMember x) (x.descend v), Member.mapNames, fun _ _ => Step.follow_enter _⟩
instance : Syntax (fun ν => List (Member ν)) := ⟨Member.visitAll, Member.mapNamesAll, fun _ _ => rfl⟩
instance : Syntax Ctor := ⟨Ctor.visit, Ctor.mapNames, fun _ _ => rfl⟩
instance : Syntax Stmt :=
  ⟨fun v x => Step.follow (v.onStmt x) (x.descend v), Stmt.mapNames, fun _ _ => Step.follow_enter _⟩
instance : Syntax (fun ν => List (Stmt ν)) := ⟨Stmt.visitAll, Stmt.mapNamesAll, fun _ _ => rfl⟩
instance : Syntax (fun ν => Option (Stmt ν)) := ⟨Stmt.visitOpt, Stmt.mapNamesOpt, fun _ _ => rfl⟩
instance : Syntax Module := ⟨Module.descend, Module.mapNames, fun _ _ => rfl⟩
instance : Syntax Ident := ⟨fun v => v.onIdent, Ident.mapNames, fun _ _ => rfl⟩
instance : Syntax (fun ν => Option (Ident ν)) := ⟨Ident.visitOpt, Ident.mapNamesOpt, Ident.visitOpt_onlyClass⟩
instance : Syntax NoParts := ⟨fun _ => pure, fun _ _ => pure ⟨⟩, fun _ _ => rfl⟩

instance {A B : Type → Type} [∀ ν, Part ν (A ν)] [∀ ν, Part ν (B ν)] [Syntax A] [Syntax B] :
    Syntax (fun ν => A ν × B ν) where
  walk v p := do return (← Syntax.walk v p.1, ← Syntax.walk v p.2)
  mapNames f p := do return (← Syntax.mapNames f p.1, ← Syntax.mapNames f p.2)
  walk_onlyClass hook p := by simp only [Syntax.walk_onlyClass]; rfl

/-! ## Constructors -/

/-- The kinds of node that a walk enters: the node that one is, and its hook. -/
class Kind (B : Type → Type) where
  node : {ν : Type} → B ν → Node ν
  hook : {m : Type → Type} → {ν : Type} → Visitor m ν → B ν → m (Step (B ν))
  class?_node {ν : Type} (x : B ν) : (node x).class? = none := by intros; rfl
  isStmt_node {ν : Type} (x y : B ν) : (node x).isStmt = (node y).isStmt := by intros; rfl
  hook_onlyClass {m : Type → Type} [Monad m] {ν : Type} (h : ClassDecl ν → m (Step (ClassDecl ν))) (x : B ν) :
    hook (.onlyClass h) x = pure .enter := by intros; rfl
  hook_noting {m : Type → Type} [Monad m] {ν : Type} (start : Module ν → m Unit) (note : Node ν → m Unit) (x : B ν) :
    hook (.noting start note) x = do note (node x); return .enter := by intros; rfl
  hook_rename {m : Type → Type} [Monad m] {ν : Type} (f : ν → ν) (x : B ν) :
    hook (.rename f : Visitor m ν) x = pure .enter := by intros; rfl

instance : Kind Expr := { node := .expr, hook := (·.onExpr) }
instance : Kind Arrow := { node := .arrow, hook := (·.onArrow) }
instance : Kind Pattern := { node := .pattern, hook := (·.onPattern) }
instance : Kind Param := { node := .param, hook := (·.onParam) }
instance : Kind Decorator := { node := .decorator, hook := (·.onDecorator) }
instance : Kind Block := { node := .block, hook := (·.onBlock) }
instance : Kind VarDecl := { node := .var, hook := (·.onVar) }
instance : Kind FunctionDecl := { node := .function, hook := (·.onFunction) }
instance : Kind Member := { node := .member, hook := (·.onMember) }
instance : Kind Stmt := { node := .stmt, hook := (·.onStmt) }

section Constructors

variable {A B : Type → Type} [∀ ν, Part ν (A ν)] [∀ ν, Part ν (B ν)] [Syntax A] [Syntax B]

/-- A constructor that the recursions go through to its parts, and that is no node by itself. -/
structure Plain (k : ∀ ν, A ν → B ν) : Prop where
  nodes {ν : Type} (x : A ν) : Part.nodes (k ν x) = Part.nodes x := by intros; rfl
  walk {m : Type → Type} [Monad m] [LawfulMonad m] {ν : Type} (v : Visitor m ν) (x : A ν) :
    Syntax.walk v (k ν x) = k ν <$> Syntax.walk v x := by
    intros; simp only [Syntax.walk, map_eq_pure_bind, bind_assoc, pure_bind] <;> rfl
  mapClasses {m : Type → Type} [Monad m] [LawfulMonad m] {ν : Type} (f : ClassDecl ν → m (ClassDecl ν)) (x : A ν) :
    Part.mapClasses f (k ν x) = k ν <$> Part.mapClasses f x := by
    intros; simp only [Part.mapClasses, map_eq_pure_bind, bind_assoc, pure_bind] <;> rfl
  mapNames {m : Type → Type} [Monad m] [LawfulMonad m] {ν μ : Type} (f : ν → m μ) (x : A ν) :
    Syntax.mapNames f (k ν x) = k μ <$> Syntax.mapNames f x := by
    intros; simp only [Syntax.mapNames, map_eq_pure_bind, bind_assoc, pure_bind] <;> rfl

/-- A constructor that puts a node around its parts. -/
structure Headed [Kind B] (k : ∀ ν, A ν → B ν) : Prop where
  nodes {ν : Type} (x : A ν) : Part.nodes (k ν x) = Kind.node (k ν x) :: Part.nodes x := by intros; rfl
  walk {m : Type → Type} [Monad m] [LawfulMonad m] {ν : Type} (v : Visitor m ν) (x : A ν) :
    Syntax.walk v (k ν x) = Step.follow (Kind.hook v (k ν x)) (k ν <$> Syntax.walk v x) := by
    intros; simp only [Syntax.walk, map_eq_pure_bind, bind_assoc, pure_bind] <;> rfl
  mapClasses {m : Type → Type} [Monad m] [LawfulMonad m] {ν : Type} (f : ClassDecl ν → m (ClassDecl ν)) (x : A ν) :
    Part.mapClasses f (k ν x) = k ν <$> Part.mapClasses f x := by
    intros; simp only [Part.mapClasses, map_eq_pure_bind, bind_assoc, pure_bind] <;> rfl
  mapNames {m : Type → Type} [Monad m] [LawfulMonad m] {ν μ : Type} (f : ν → m μ) (x : A ν) :
    Syntax.mapNames f (k ν x) = k μ <$> Syntax.mapNames f x := by
    intros; simp only [Syntax.mapNames, map_eq_pure_bind, bind_assoc, pure_bind] <;> rfl
  names {ν : Type} (x : A ν) : (Kind.node (k ν x)).names = [] := by intros; rfl
  spans {ν : Type} (g : ClassDecl ν → ClassDecl ν) (x : A ν) :
    (Kind.node (k ν (Part.replace g x))).spans = (Kind.node (k ν x)).spans := by intros; rfl

end Constructors

/-- A property that is handed on from the parts of a node to the node. -/
structure Hereditary (P : ∀ (A : Type → Type) [∀ ν, Part ν (A ν)] [Syntax A], A ν → Prop) : Prop where
  noParts : P NoParts ⟨⟩
  ident (id : Ident ν) : P Ident id
  str (y : ν) (s : Span) : P Expr (.str y s)
  exportNames (ns : List (ExportName ν)) (s : Span) : P Stmt (.exportNames ns s)
  classDef (d : ClassDecl ν) : P ClassDecl d → P Stmt (.classDef d)
  prod {A B : Type → Type} [∀ ν, Part ν (A ν)] [∀ ν, Part ν (B ν)] [Syntax A] [Syntax B] {x : A ν} {y : B ν} :
    P A x → P B y → P (fun ν => A ν × B ν) (x, y)
  plain {A B : Type → Type} [∀ ν, Part ν (A ν)] [∀ ν, Part ν (B ν)] [Syntax A] [Syntax B] {k : ∀ ν, A ν → B ν} :
    Plain k → ∀ {x : A ν}, P A x → P B (k ν x)
  headed {A B : Type → Type} [∀ ν, Part ν (A ν)] [∀ ν, Part ν (B ν)] [Syntax A] [Syntax B] [Kind B]
    {k : ∀ ν, A ν → B ν} : Headed k → ∀ {x : A ν}, P A x → P B (k ν x)

theorem PropertyPattern.spans_replace (g : ClassDecl ν → ClassDecl ν) :
    ∀ ps : List (PropertyPattern ν), (Part.replace g ps).map (·.span) = ps.map (·.span)
  | [] => rfl
  | ⟨_, _, _, s⟩ :: ps => congrArg (s :: ·) (spans_replace g ps)

section Tree

variable {P : ∀ (A : Type → Type) [∀ ν, Part ν (A ν)] [Syntax A], A ν → Prop} (h : Hereditary P)

include h

mutual

theorem Expr.hereditary : ∀ x : Expr ν, P Expr x
  | .int v s => h.headed (k := fun _ _ => Expr.int v s) {} h.noParts
  | .str y s => h.str y s
  | .bool v s => h.headed (k := fun _ _ => Expr.bool v s) {} h.noParts
  | .null s => h.headed (k := fun _ _ => Expr.null s) {} h.noParts
  | .ident id => h.headed (k := fun _ x => Expr.ident x) {} (h.ident id)
  | .array es s => h.headed (k := fun _ x => Expr.array x s) {} (Expr.hereditaryAll es)
  | .assign op l r s => h.headed (k := fun _ x => Expr.assign op x.1 x.2 s) {} (h.prod l.hereditary r.hereditary)
  | .call c as s => h.headed (k := fun _ x => Expr.call x.1 x.2 s) {} (h.prod c.hereditary (Expr.hereditaryAll as))
  | .member o p opt s => h.headed (k := fun _ x => Expr.member x.1 x.2 opt s) {} (h.prod o.hereditary (h.ident p))
  | .new c as s => h.headed (k := fun _ x => Expr.new x.1 x.2 s) {} (h.prod c.hereditary (Expr.hereditaryAll as))
  | .arrow fn => h.headed (k := fun _ x => Expr.arrow x) {} fn.hereditary
  | .paren e s => h.headed (k := fun _ x => Expr.paren x s) {} e.hereditary
  | .this s => h.headed (k := fun _ _ => Expr.this s) {} h.noParts
  | .super s => h.headed (k := fun _ _ => Expr.super s) {} h.noParts

theorem Expr.hereditaryAll : ∀ x : List (Expr ν), P (fun ν => List (Expr ν)) x
  | [] => h.plain (k := fun _ _ => []) {} h.noParts
  | x :: xs => h.plain (k := fun _ x => x.1 :: x.2) {} (h.prod x.hereditary (Expr.hereditaryAll xs))

theorem Expr.hereditaryOpt : ∀ x : Option (Expr ν), P (fun ν => Option (Expr ν)) x
  | none => h.plain (k := fun _ _ => none) {} h.noParts
  | some x => h.plain (k := fun _ x => some x) {} x.hereditary

theorem Arrow.hereditary : ∀ x : Arrow ν, P Arrow x
  | ⟨ps, b, a, s⟩ => h.headed (k := fun _ x => Arrow.mk x.1 x.2 a s) {} (h.prod (Param.hereditaryAll ps) b.hereditary)

theorem ArrowBody.hereditary : ∀ x : ArrowBody ν, P ArrowBody x
  | .expr e => h.plain (k := fun _ x => ArrowBody.expr x) {} e.hereditary
  | .block b => h.plain (k := fun _ x => ArrowBody.block x) {} b.hereditary

theorem Pattern.hereditary : ∀ x : Pattern ν, P Pattern x
  | .ident id => h.headed (k := fun _ x => Pattern.ident x) {} (h.ident id)
  | .array ss r s => h.headed (k := fun _ x => Pattern.array x.1 x.2 s) {}
    (h.prod (Slot.hereditaryAll ss) (Pattern.hereditaryOpt r))
  | .object ps r s => h.headed (k := fun _ x => Pattern.object x.1 x.2 s)
    { spans := fun g x => congrArg (s :: ·) (PropertyPattern.spans_replace g x.1) }
    (h.prod (PropertyPattern.hereditaryAll ps) (Ident.hereditaryOpt r))
  | .rest p s => h.headed (k := fun _ x => Pattern.rest x s) {} p.hereditary

theorem Pattern.hereditaryOpt : ∀ x : Option (Pattern ν), P (fun ν => Option (Pattern ν)) x
  | none => h.plain (k := fun _ _ => none) {} h.noParts
  | some x => h.plain (k := fun _ x => some x) {} x.hereditary

theorem Ident.hereditaryOpt : ∀ x : Option (Ident ν), P (fun ν => Option (Ident ν)) x
  | none => h.plain (k := fun _ _ => none) {} h.noParts
  | some x => h.plain (k := fun _ x => some x) {} (h.ident x)

theorem Slot.hereditary : ∀ x : Slot ν, P Slot x
  | .hole => h.plain (k := fun _ _ => Slot.hole) {} h.noParts
  | .item p d => h.plain (k := fun _ x => Slot.item x.1 x.2) {} (h.prod p.hereditary (Expr.hereditaryOpt d))

theorem Slot.hereditaryAll : ∀ x : List (Slot ν), P (fun ν => List (Slot ν)) x
  | [] => h.plain (k := fun _ _ => []) {} h.noParts
  | x :: xs => h.plain (k := fun _ x => x.1 :: x.2) {} (h.prod x.hereditary (Slot.hereditaryAll xs))

theorem PropertyPattern.hereditary : ∀ x : PropertyPattern ν, P PropertyPattern x
  | ⟨k, p, d, s⟩ => h.plain (k := fun _ x => PropertyPattern.mk x.1 x.2.1 x.2.2 s) {}
    (h.prod (h.ident k) (h.prod p.hereditary (Expr.hereditaryOpt d)))

theorem PropertyPattern.hereditaryAll : ∀ x : List (PropertyPattern ν), P (fun ν => List (PropertyPattern ν)) x
  | [] => h.plain (k := fun _ _ => []) {} h.noParts
  | x :: xs => h.plain (k := fun _ x => x.1 :: x.2) {} (h.prod x.hereditary (PropertyPattern.hereditaryAll xs))

theorem Param.hereditary : ∀ x : Param ν, P Param x
  | ⟨ds, p, d, s⟩ => h.headed (k := fun _ x => Param.mk x.1 x.2.1 x.2.2 s)
    { nodes := fun x => congrArg (List.cons _) (List.append_assoc (Part.nodes x.1) (Part.nodes x.2.1) _) }
    (h.prod (Decorator.hereditaryAll ds) (h.prod p.hereditary (Expr.hereditaryOpt d)))

theorem Param.hereditaryAll : ∀ x : List (Param ν), P (fun ν => List (Param ν)) x
  | [] => h.plain (k := fun _ _ => []) {} h.noParts
  | x :: xs => h.plain (k := fun _ x => x.1 :: x.2) {} (h.prod x.hereditary (Param.hereditaryAll xs))

theorem Decorator.hereditary : ∀ x : Decorator ν, P Decorator x
  | ⟨e, s⟩ => h.headed (k := fun _ x => Decorator.mk x s) {} e.hereditary

theorem Decorator.hereditaryAll : ∀ x : List (Decorator ν), P (fun ν => List (Decorator ν)) x
  | [] => h.plain (k := fun _ _ => []) {} h.noParts
  | x :: xs => h.plain (k := fun _ x => x.1 :: x.2) {} (h.prod x.hereditary (Decorator.hereditaryAll xs))

theorem Block.hereditary : ∀ x : Block ν, P Block x
  | ⟨ss, s⟩ => h.headed (k := fun _ x => Block.mk x s) {} (Stmt.hereditaryAll ss)

theorem Block.hereditaryOpt : ∀ x : Option (Block ν), P (fun ν => Option (Block ν)) x
  | none => h.plain (k := fun _ _ => none) {} h.noParts
  | some x => h.plain (k := fun _ x => some x) {} x.hereditary

theorem VarDecl.hereditary : ∀ x : VarDecl ν, P VarDecl x
  | ⟨c, p, i, s⟩ => h.headed (k := fun _ x => VarDecl.mk c x.1 x.2 s) {} (h.prod p.hereditary (Expr.hereditaryOpt i))

theorem FunctionDecl.hereditary : ∀ x : FunctionDecl ν, P FunctionDecl x
  | ⟨n, ps, b, a, s⟩ => h.headed (k := fun _ x => FunctionDecl.mk x.1 x.2.1 x.2.2 a s) {}
    (h.prod (h.ident n) (h.prod (Param.hereditaryAll ps) b.hereditary))

theorem ClassDecl.hereditary : ∀ x : ClassDecl ν, P ClassDecl x
  | ⟨ds, n, b, ms, s⟩ => h.plain (k := fun _ x => ClassDecl.mk x.1 x.2.1 x.2.2.1 x.2.2.2 s) {}
    (h.prod (Decorator.hereditaryAll ds)
      (h.prod (h.ident n) (h.prod (Expr.hereditaryOpt b) (Member.hereditaryAll ms))))

theorem Member.hereditary : ∀ x : Member ν, P Member x
  | .field ds n i st s => h.headed (k := fun _ x => Member.field x.1 x.2.1 x.2.2 st s) {}
    (h.prod (Decorator.hereditaryAll ds) (h.prod (h.ident n) (Expr.hereditaryOpt i)))
  | .method ds n ps b st a s => h.headed (k := fun _ x => Member.method x.1 x.2.1 x.2.2.1 x.2.2.2 st a s) {}
    (h.prod (Decorator.hereditaryAll ds)
      (h.prod (h.ident n) (h.prod (Param.hereditaryAll ps) (Block.hereditaryOpt b))))
  | .ctor c => h.headed (k := fun _ x => Member.ctor x) { spans := fun g c => by cases c; rfl } c.hereditary

theorem Member.hereditaryAll : ∀ x : List (Member ν), P (fun ν => List (Member ν)) x
  | [] => h.plain (k := fun _ _ => []) {} h.noParts
  | x :: xs => h.plain (k := fun _ x => x.1 :: x.2) {} (h.prod x.hereditary (Member.hereditaryAll xs))

theorem Ctor.hereditary : ∀ x : Ctor ν, P Ctor x
  | ⟨ps, b, s⟩ => h.plain (k := fun _ x => Ctor.mk x.1 x.2 s) {} (h.prod (Param.hereditaryAll ps) b.hereditary)

theorem Stmt.hereditary : ∀ x : Stmt ν, P Stmt x
  | .var d => h.headed (k := fun _ x => Stmt.var x) {} d.hereditary
  | .function d => h.headed (k := fun _ x => Stmt.function x) {} d.hereditary
  | .classDef d => h.classDef d d.hereditary
  | .exportDecl d => h.headed (k := fun _ x => Stmt.exportDecl x) {} d.hereditary
  | .exportNames ns s => h.exportNames ns s
  | .expr e s => h.headed (k := fun _ x => Stmt.expr x s) {} e.hereditary
  | .branch c t e s => h.headed (k := fun _ x => Stmt.branch x.1 x.2.1 x.2.2 s)
    { nodes := fun x => congrArg (List.cons _) (List.append_assoc (Part.nodes x.1) (Part.nodes x.2.1) _) }
    (h.prod c.hereditary (h.prod t.hereditary (Stmt.hereditaryOpt e)))
  | .loop c b s => h.headed (k := fun _ x => Stmt.loop x.1 x.2 s) {} (h.prod c.hereditary b.hereditary)
  | .ret e s => h.headed (k := fun _ x => Stmt.ret x s) {} (Expr.hereditaryOpt e)
  | .throw e s => h.headed (k := fun _ x => Stmt.throw x s) {} e.hereditary
  | .block b => h.headed (k := fun _ x => Stmt.block x) {} b.hereditary
  | .empty s => h.headed (k := fun _ _ => Stmt.empty s) {} h.noParts

theorem Stmt.hereditaryAll : ∀ x : List (Stmt ν), P (fun ν => List (Stmt ν)) x
  | [] => h.plain (k := fun _ _ => []) {} h.noParts
  | x :: xs => h.plain (k := fun _ x => x.1 :: x.2) {} (h.prod x.hereditary (Stmt.hereditaryAll xs))

theorem Stmt.hereditaryOpt : ∀ x : Option (Stmt ν), P (fun ν => Option (Stmt ν)) x
  | none => h.plain (k := fun _ _ => none) {} h.noParts
  | some x => h.plain (k := fun _ x => some x) {} x.hereditary

end

theorem Module.hereditary (p : Module ν) : P Module p :=
  h.plain (k := fun _ x => Module.mk x p.span) {} (Stmt.hereditaryAll h p.statements)

end Tree

end Promotion
