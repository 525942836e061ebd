import Promotion.Tree.Basic
/-!
# The nodes of a tree

`nodes` lists a tree in source order, each node before the nodes inside it.  The listing is read off the tree itself
and knows nothing of walks and hooks, so it says independently of them what a walk has to reach.  What stands in a tree
at any depth, such as its class declarations (`classDecls`), is picked out of this one list.

The names in an export list are the only identifiers that are left out: they bind nothing and refer to declarations that
are listed where they stand.
-/
namespace Promotion

/-- A node of a tree, of any kind that a walk has a hook for. -/
inductive Node (ν : Type) where
  | stmt (node : Stmt ν)
  | var (node : VarDecl ν)
  | function (node : FunctionDecl ν)
  | classDecl (node : ClassDecl ν)
  | member (node : Member ν)
  | param (node : Param ν)
  | decorator (node : Decorator ν)
  | block (node : Block ν)
  | expr (node : Expr ν)
  | arrow (node : Arrow ν)
  | pattern (node : Pattern ν)
  | ident (node : Ident ν)

variable {ν : Type}

mutual

def Expr.nodes (e : Expr ν) : List (Node ν) :=
  .expr e :: match e with
    | .ident id => [.ident id]
    | .array es _ => Expr.nodesAll es
    | .assign _ l r _ => l.nodes ++ r.nodes
    | .call c as _ => c.nodes ++ Expr.nodesAll as
    | .member o p _ _ => o.nodes ++ [.ident p]
    | .new c as _ => c.nodes ++ Expr.nodesAll as
    | .arrow fn => fn.nodes
    | .paren e _ => e.nodes
    | .int .. | .str .. | .bool .. | .null _ | .this _ | .super _ => []

def Expr.nodesAll : List (Expr ν) → List (Node ν)
  | [] => []
  | e :: es => e.nodes ++ Expr.nodesAll es

def Expr.nodesOpt : Option (Expr ν) → List (Node ν)
  | none => []
  | some e => e.nodes

def Arrow.nodes : Arrow ν → List (Node ν)
  | ⟨ps, b, a, s⟩ => .arrow ⟨ps, b, a, s⟩ :: (Param.nodesAll ps ++ b.nodes)

def ArrowBody.nodes : ArrowBody ν → List (Node ν)
  | .expr e => e.nodes
  | .block b => b.nodes

def Pattern.nodes (p : Pattern ν) : List (Node ν) :=
  .pattern p :: match p with
    | .ident id => [.ident id]
    | .array ss r _ => Slot.nodesAll ss ++ Pattern.nodesOpt r
    | .object ps r _ => PropertyPattern.nodesAll ps ++ r.toList.map .ident
    | .rest p _ => p.nodes

def Pattern.nodesOpt : Option (Pattern ν) → List (Node ν)
  | none => []
  | some p => p.nodes

def Slot.nodes : Slot ν → List (Node ν)
  | .hole => []
  | .item p d => p.nodes ++ Expr.nodesOpt d

def Slot.nodesAll : List (Slot ν) → List (Node ν)
  | [] => []
  | x :: xs => x.nodes ++ Slot.nodesAll xs

def PropertyPattern.nodes : PropertyPattern ν → List (Node ν)
  | ⟨k, p, d, _⟩ => .ident k :: (p.nodes ++ Expr.nodesOpt d)

def PropertyPattern.nodesAll : List (PropertyPattern ν) → List (Node ν)
  | [] => []
  | p :: ps => p.nodes ++ PropertyPattern.nodesAll ps

def Param.nodes : Param ν → List (Node ν)
  | ⟨ds, p, d, s⟩ => .param ⟨ds, p, d, s⟩ :: (Decorator.nodesAll ds ++ p.nodes ++ Expr.nodesOpt d)

def Param.nodesAll : List (Param ν) → List (Node ν)
  | [] => []
  | p :: ps => p.nodes ++ Param.nodesAll ps

def Decorator.nodes : Decorator ν → List (Node ν)
  | ⟨e, s⟩ => .decorator ⟨e, s⟩ :: e.nodes

def Decorator.nodesAll : List (Decorator ν) → List (Node ν)
  | [] => []
  | d :: ds => d.nodes ++ Decorator.nodesAll ds

def Block.nodes : Block ν → List (Node ν)
  | ⟨ss, s⟩ => .block ⟨ss, s⟩ :: Stmt.nodesAll ss

def Block.nodesOpt : Option (Block ν) → List (Node ν)
  | none => []
  | some b => b.nodes

def VarDecl.nodes : VarDecl ν → List (Node ν)
  | ⟨k, p, i, s⟩ => .var ⟨k, p, i, s⟩ :: (p.nodes ++ Expr.nodesOpt i)

def FunctionDecl.nodes : FunctionDecl ν → List (Node ν)
  | ⟨n, ps, b, a, s⟩ => .function ⟨n, ps, b, a, s⟩ :: .ident n :: (Param.nodesAll ps ++ b.nodes)

/-- The nodes inside a class, without the class itself. -/
def ClassDecl.inside : ClassDecl ν → List (Node ν)
  | ⟨ds, n, b, ms, _⟩ => Decorator.nodesAll ds ++ .ident n :: (Expr.nodesOpt b ++ Member.nodesAll ms)

def Member.nodes (x : Member ν) : List (Node ν) :=
  .member x :: match x with
    | .field ds n i _ _ => Decorator.nodesAll ds ++ .ident n :: Expr.nodesOpt i
    | .method ds n ps b _ _ _ => Decorator.nodesAll ds ++ .ident n :: (Param.nodesAll ps ++ Block.nodesOpt b)
    | .ctor c => c.nodes

def Member.nodesAll : List (Member ν) → List (Node ν)
  | [] => []
  | x :: xs => x.nodes ++ Member.nodesAll xs

def Ctor.nodes : Ctor ν → List (Node ν)
  | ⟨ps, b, _⟩ => Param.nodesAll ps ++ b.nodes

def Stmt.nodes (x : Stmt ν) : List (Node ν) :=
  .stmt x :: match x with
    | .var d => d.nodes
    | .function d => d.nodes
    | .classDef d => .classDecl d :: d.inside
    | .exportDecl d => d.nodes
    | .expr e _ => e.nodes
    | .branch c t e _ => c.nodes ++ t.nodes ++ Stmt.nodesOpt e
    | .loop c b _ => c.nodes ++ b.nodes
    | .ret e _ => Expr.nodesOpt e
    | .throw e _ => e.nodes
    | .block b => b.nodes
    | .exportNames .. | .empty _ => []

def Stmt.nodesAll : List (Stmt ν) → List (Node ν)
  | [] => []
  | x :: xs => x.nodes ++ Stmt.nodesAll xs

def Stmt.nodesOpt : Option (Stmt ν) → List (Node ν)
  | none => []
  | some x => x.nodes

end

/-- The nodes of a class, the class itself first. -/
def ClassDecl.nodes (d : ClassDecl ν) : List (Node ν) := .classDecl d :: d.inside

/-- The nodes of a module, the module itself left out. -/
def Module.nodes (p : Module ν) : List (Node ν) := Stmt.nodesAll p.statements

/-! ## Lists and options -/

/-- A listing that goes through a list element by element. -/
theorem nodesAll_eq_flatMap {α : Type} {one : α → List (Node ν)} (all : List α → List (Node ν)) (hn : all [] = [])
    (hc : ∀ x xs, all (x :: xs) = one x ++ all xs) : ∀ xs, all xs = xs.flatMap one
  | [] => hn
  | x :: xs => by rw [hc, nodesAll_eq_flatMap all hn hc xs, List.flatMap_cons]

theorem Expr.nodesAll_eq : ∀ es : List (Expr ν), Expr.nodesAll es = es.flatMap Expr.nodes :=
  nodesAll_eq_flatMap _ rfl fun _ _ => rfl

theorem Slot.nodesAll_eq : ∀ ss : List (Slot ν), Slot.nodesAll ss = ss.flatMap Slot.nodes :=
  nodesAll_eq_flatMap _ rfl fun _ _ => rfl

theorem PropertyPattern.nodesAll_eq :
    ∀ ps : List (PropertyPattern ν), PropertyPattern.nodesAll ps = ps.flatMap PropertyPattern.nodes :=
  nodesAll_eq_flatMap _ rfl fun _ _ => rfl

theorem Param.nodesAll_eq : ∀ ps : List (Param ν), Param.nodesAll ps = ps.flatMap Param.nodes :=
  nodesAll_eq_flatMap _ rfl fun _ _ => rfl

theorem Decorator.nodesAll_eq : ∀ ds : List (Decorator ν), Decorator.nodesAll ds = ds.flatMap Decorator.nodes :=
  nodesAll_eq_flatMap _ rfl fun _ _ => rfl

theorem Member.nodesAll_eq : ∀ xs : List (Member ν), Member.nodesAll xs = xs.flatMap Member.nodes :=
  nodesAll_eq_flatMap _ rfl fun _ _ => rfl

theorem Stmt.nodesAll_eq : ∀ xs : List (Stmt ν), Stmt.nodesAll xs = xs.flatMap Stmt.nodes :=
  nodesAll_eq_flatMap _ rfl fun _ _ => rfl

theorem Expr.nodesOpt_eq (e : Option (Expr ν)) : Expr.nodesOpt e = e.toList.flatMap Expr.nodes := by
  cases e <;> simp [Expr.nodesOpt]

theorem Pattern.nodesOpt_eq (p : Option (Pattern ν)) : Pattern.nodesOpt p = p.toList.flatMap Pattern.nodes := by
  cases p <;> simp [Pattern.nodesOpt]

theorem Block.nodesOpt_eq (b : Option (Block ν)) : Block.nodesOpt b = b.toList.flatMap Block.nodes := by
  cases b <;> simp [Block.nodesOpt]

theorem Stmt.nodesOpt_eq (x : Option (Stmt ν)) : Stmt.nodesOpt x = x.toList.flatMap Stmt.nodes := by
  cases x <;> simp [Stmt.nodesOpt]

/-! ## What a node holds by itself

The names and the spans of a node are those that stand in it and in no node inside it.  A node that is no more than a
name counts the span of the name as its own. -/

/-- The identifiers of an entry of an export list. -/
def ExportName.idents (n : ExportName ν) : List (Ident ν) := n.name :: n.exportedAs.toList

namespace Node

def isStmt : Node ν → Bool
  | .stmt _ => true
  | _ => false

def names : Node ν → List ν
  | .ident id => [id.name]
  | .expr (.str v _) => [v]
  | .stmt (.exportNames ns _) => (ns.flatMap ExportName.idents).map (·.name)
  | _ => []

def spans : Node ν → List Span
  | .stmt x => match x with
    | .expr _ s | .branch _ _ _ s | .loop _ _ s | .ret _ s | .throw _ s | .empty s => [s]
    | .exportNames ns s => s :: (ns.flatMap ExportName.idents).map (·.span)
    | .var _ | .function _ | .classDef _ | .exportDecl _ | .block _ => []
  | .var d => [d.span]
  | .function d => [d.span]
  | .classDecl d => [d.span]
  | .member x => match x with
    | .field _ _ _ _ s | .method _ _ _ _ _ _ s => [s]
    | .ctor c => [c.span]
  | .param p => [p.span]
  | .decorator d => [d.span]
  | .block b => [b.span]
  | .expr e => match e with
    | .int _ s | .str _ s | .bool _ s | .null s | .array _ s | .assign _ _ _ s | .call _ _ s | .member _ _ _ s
    | .new _ _ s | .paren _ s | .this s | .super s => [s]
    | .ident id => [id.span]
    | .arrow _ => []
  | .arrow f => [f.span]
  | .pattern p => match p with
    | .ident id => [id.span]
    | .array _ _ s | .rest _ s => [s]
    -- the properties are no nodes, and their spans stand nowhere else
    | .object ps _ s => s :: ps.map (·.span)
  | .ident id => [id.span]

end Node

/-- The names of a module, string literals and export lists included, one for each place where one stands. -/
def Module.names (p : Module ν) : List ν := p.nodes.flatMap Node.names

/-- The spans of a module, its own first. -/
def Module.spans (p : Module ν) : List Span := p.span :: p.nodes.flatMap Node.spans

/-! ## The classes among the nodes -/

namespace Node

def class? : Node ν → Option (ClassDecl ν)
  | .classDecl d => some d
  | _ => none

def classes (ns : List (Node ν)) : List (ClassDecl ν) := ns.filterMap class?

theorem classes_cons (n : Node ν) (ns : List (Node ν)) : classes (n :: ns) = n.class?.toList ++ classes ns := by
  unfold classes
  cases h : n.class? <;> simp [h]

theorem classes_append (ns ns' : List (Node ν)) : classes (ns ++ ns') = classes ns ++ classes ns' :=
  List.filterMap_append

end Node

/-- The class and the classes inside it at any depth, each before the classes inside it. -/
def ClassDecl.classDecls (d : ClassDecl ν) : List (ClassDecl ν) := d :: Node.classes d.inside

/-- The class declarations of a module at any depth, each before the classes inside it. -/
def Module.classDecls (p : Module ν) : List (ClassDecl ν) := Node.classes p.nodes

end Promotion
