import Promotion.Tree.Basic
/-!
# Walking a tree

A `Visitor` has one hook per kind of node.  A walk calls the hook of a node before it goes into the node, and the hook
says what happens next: `enter` goes into the node's children in source order, `replace n` takes `n` for the node and
goes on behind it.  Identifiers have no children; their hook gives the identifier to put in their place.

`x.visit v` calls the hook of `x`; `x.descend v` goes into `x` without calling its hook.  All recursion is in the
`descend` family, which recurses on the tree, so a walk ends whatever the hooks do.  The names in an export list are no
expressions and bind nothing, and a walk does not visit them.
-/
namespace Promotion

/-- What a walk does after the hook of a node: go into the node, or take `node` for it. -/
inductive Step (α : Type) where
  | enter
  | replace (node : α)

/-- The hooks of a walk. -/
structure Visitor (m : Type → Type) (ν : Type) where
  onModule : Module ν → m (Step (Module ν))
  onStmt : Stmt ν → m (Step (Stmt ν))
  onVar : VarDecl ν → m (Step (VarDecl ν))
  onFunction : FunctionDecl ν → m (Step (FunctionDecl ν))
  onClass : ClassDecl ν → m (Step (ClassDecl ν))
  onMember : Member ν → m (Step (Member ν))
  onParam : Param ν → m (Step (Param ν))
  onDecorator : Decorator ν → m (Step (Decorator ν))
  onBlock : Block ν → m (Step (Block ν))
  onExpr : Expr ν → m (Step (Expr ν))
  onArrow : Arrow ν → m (Step (Arrow ν))
  onPattern : Pattern ν → m (Step (Pattern ν))
  onIdent : Ident ν → m (Ident ν)

variable {m : Type → Type} [Monad m] {ν : Type}

/-- Enters every node and changes nothing. -/
def Visitor.enterAll : Visitor m ν where
  onModule _ := return .enter
  onStmt _ := return .enter
  onVar _ := return .enter
  onFunction _ := return .enter
  onClass _ := return .enter
  onMember _ := return .enter
  onParam _ := return .enter
  onDecorator _ := return .enter
  onBlock _ := return .enter
  onExpr _ := return .enter
  onArrow _ := return .enter
  onPattern _ := return .enter
  onIdent id := return id

/-- Follows the hook's decision: `descend` is the walk into the node. -/
def Step.follow {α : Type} (hook : m (Step α)) (descend : m α) : m α := do
  match ← hook with
  | .enter => descend
  | .replace node => return node

def Ident.visitOpt (v : Visitor m ν) : Option (Ident ν) → m (Option (Ident ν))
  | none => return none
  | some id => do return some (← v.onIdent id)

mutual

def Expr.descend (v : Visitor m ν) : Expr ν → m (Expr ν)
  | .ident id => do return .ident (← v.onIdent id)
  | .array es s => do return .array (← Expr.visitAll v es) s
  | .assign op l r s => do
    return .assign op (← Step.follow (v.onExpr l) (l.descend v)) (← Step.follow (v.onExpr r) (r.descend v)) s
  | .call c as s => do return .call (← Step.follow (v.onExpr c) (c.descend v)) (← Expr.visitAll v as) s
  | .member o p opt s => do return .member (← Step.follow (v.onExpr o) (o.descend v)) (← v.onIdent p) opt s
  | .new c as s => do return .new (← Step.follow (v.onExpr c) (c.descend v)) (← Expr.visitAll v as) s
  | .arrow fn => do return .arrow (← Step.follow (v.onArrow fn) (fn.descend v))
  | .paren e s => do return .paren (← Step.follow (v.onExpr e) (e.descend v)) s
  | .int n s => return .int n s
  | .str n s => return .str n s
  | .bool b s => return .bool b s
  | .null s => return .null s
  | .this s => return .this s
  | .super s => return .super s

def Expr.visitAll (v : Visitor m ν) : List (Expr ν) → m (List (Expr ν))
  | [] => return []
  | e :: es => do return (← Step.follow (v.onExpr e) (e.descend v)) :: (← Expr.visitAll v es)

def Expr.visitOpt (v : Visitor m ν) : Option (Expr ν) → m (Option (Expr ν))
  | none => return none
  | some e => do return some (← Step.follow (v.onExpr e) (e.descend v))

def Arrow.descend (v : Visitor m ν) : Arrow ν → m (Arrow ν)
  | ⟨ps, b, a, s⟩ => do return ⟨← Param.visitAll v ps, ← b.visit v, a, s⟩

def ArrowBody.visit (v : Visitor m ν) : ArrowBody ν → m (ArrowBody ν)
  | .expr e => do return .expr (← Step.follow (v.onExpr e) (e.descend v))
  | .block b => do return .block (← Step.follow (v.onBlock b) (b.descend v))

def Pattern.descend (v : Visitor m ν) : Pattern ν → m (Pattern ν)
  | .ident id => do return .ident (← v.onIdent id)
  | .array ss r s => do return .array (← Slot.visitAll v ss) (← Pattern.visitOpt v r) s
  | .object ps r s => do return .object (← PropertyPattern.visitAll v ps) (← Ident.visitOpt v r) s
  | .rest p s => do return .rest (← Step.follow (v.onPattern p) (p.descend v)) s

def Pattern.visitOpt (v : Visitor m ν) : Option (Pattern ν) → m (Option (Pattern ν))
  | none => return none
  | some p => do return some (← Step.follow (v.onPattern p) (p.descend v))

def Slot.visit (v : Visitor m ν) : Slot ν → m (Slot ν)
  | .hole => return .hole
  | .item p d => do return .item (← Step.follow (v.onPattern p) (p.descend v)) (← Expr.visitOpt v d)

def Slot.visitAll (v : Visitor m ν) : List (Slot ν) → m (List (Slot ν))
  | [] => return []
  | x :: xs => do return (← x.visit v) :: (← Slot.visitAll v xs)

def PropertyPattern.visit (v : Visitor m ν) : PropertyPattern ν → m (PropertyPattern ν)
  | ⟨k, p, d, s⟩ => do
    return ⟨← v.onIdent k, ← Step.follow (v.onPattern p) (p.descend v), ← Expr.visitOpt v d, s⟩

def PropertyPattern.visitAll (v : Visitor m ν) : List (PropertyPattern ν) → m (List (PropertyPattern ν))
  | [] => return []
  | p :: ps => do return (← p.visit v) :: (← PropertyPattern.visitAll v ps)

def Param.descend (v : Visitor m ν) : Param ν → m (Param ν)
  | ⟨ds, p, d, s⟩ => do
    return ⟨← Decorator.visitAll v ds, ← Step.follow (v.onPattern p) (p.descend v), ← Expr.visitOpt v d, s⟩

def Param.visitAll (v : Visitor m ν) : List (Param ν) → m (List (Param ν))
  | [] => return []
  | p :: ps => do return (← Step.follow (v.onParam p) (p.descend v)) :: (← Param.visitAll v ps)

def Decorator.descend (v : Visitor m ν) : Decorator ν → m (Decorator ν)
  | ⟨e, s⟩ => do return ⟨← Step.follow (v.onExpr e) (e.descend v), s⟩

def Decorator.visitAll (v : Visitor m ν) : List (Decorator ν) → m (List (Decorator ν))
  | [] => return []
  | d :: ds => do return (← Step.follow (v.onDecorator d) (d.descend v)) :: (← Decorator.visitAll v ds)

def Block.descend (v : Visitor m ν) : Block ν → m (Block ν)
  | ⟨ss, s⟩ => do return ⟨← Stmt.visitAll v ss, s⟩

def Block.visitOpt (v : Visitor m ν) : Option (Block ν) → m (Option (Block ν))
  | none => return none
  | some b => do return some (← Step.follow (v.onBlock b) (b.descend v))

def VarDecl.descend (v : Visitor m ν) : VarDecl ν → m (VarDecl ν)
  | ⟨k, p, i, s⟩ => do return ⟨k, ← Step.follow (v.onPattern p) (p.descend v), ← Expr.visitOpt v i, s⟩

def FunctionDecl.descend (v : Visitor m ν) : FunctionDecl ν → m (FunctionDecl ν)
  | ⟨n, ps, b, a, s⟩ => do
    return ⟨← v.onIdent n, ← Param.visitAll v ps, ← Step.follow (v.onBlock b) (b.descend v), a, s⟩

def ClassDecl.descend (v : Visitor m ν) : ClassDecl ν → m (ClassDecl ν)
  | ⟨ds, n, b, ms, s⟩ => do
    return ⟨← Decorator.visitAll v ds, ← v.onIdent n, ← Expr.visitOpt v b, ← Member.visitAll v ms, s⟩

def Member.descend (v : Visitor m ν) : Member ν → m (Member ν)
  | .field ds n i st s => do
    return .field (← Decorator.visitAll v ds) (← v.onIdent n) (← Expr.visitOpt v i) st s
  | .method ds n ps b st a s => do
    return .method (← Decorator.visitAll v ds) (← v.onIdent n) (← Param.visitAll v ps) (← Block.visitOpt v b) st a s
  | .ctor c => do return .ctor (← c.visit v)

def Member.visitAll (v : Visitor m ν) : List (Member ν) → m (List (Member ν))
  | [] => return []
  | x :: xs => do return (← Step.follow (v.onMember x) (x.descend v)) :: (← Member.visitAll v xs)

def Ctor.visit (v : Visitor m ν) : Ctor ν → m (Ctor ν)
  | ⟨ps, b, s⟩ => do return ⟨← Param.visitAll v ps, ← Step.follow (v.onBlock b) (b.descend v), s⟩

def Stmt.descend (v : Visitor m ν) : Stmt ν → m (Stmt ν)
  | .var d => do return .var (← Step.follow (v.onVar d) (d.descend v))
  | .function d => do return .function (← Step.follow (v.onFunction d) (d.descend v))
  | .classDef d => do return .classDef (← Step.follow (v.onClass d) (d.descend v))
  | .exportDecl d => do return .exportDecl (← Step.follow (v.onStmt d) (d.descend v))
  | .exportNames ns s => return .exportNames ns s
  | .expr e s => do return .expr (← Step.follow (v.onExpr e) (e.descend v)) s
  | .branch c t e s => do
    return .branch (← Step.follow (v.onExpr c) (c.descend v)) (← Step.follow (v.onStmt t) (t.descend v))
      (← Stmt.visitOpt v e) s
  | .loop c b s => do
    return .loop (← Step.follow (v.onExpr c) (c.descend v)) (← Step.follow (v.onStmt b) (b.descend v)) s
  | .ret e s => do return .ret (← Expr.visitOpt v e) s
  | .throw e s => do return .throw (← Step.follow (v.onExpr e) (e.descend v)) s
  | .block b => do return .block (← Step.follow (v.onBlock b) (b.descend v))
  | .empty s => return .empty s

def Stmt.visitAll (v : Visitor m ν) : List (Stmt ν) → m (List (Stmt ν))
  | [] => return []
  | x :: xs => do return (← Step.follow (v.onStmt x) (x.descend v)) :: (← Stmt.visitAll v xs)

def Stmt.visitOpt (v : Visitor m ν) : Option (Stmt ν) → m (Option (Stmt ν))
  | none => return none
  | some x => do return some (← Step.follow (v.onStmt x) (x.descend v))

end

def Module.descend (v : Visitor m ν) (p : Module ν) : m (Module ν) := do
  return ⟨← Stmt.visitAll v p.statements, p.span⟩

def Module.visit (v : Visitor m ν) (p : Module ν) : m (Module ν) :=
  Step.follow (v.onModule p) (p.descend v)

/-- Replaces the name of every identifier that a walk visits. -/
def Visitor.rename (f : ν → ν) : Visitor m ν :=
  { Visitor.enterAll with onIdent := fun id => return { id with name := f id.name } }

/-- The class declarations of a module, each before the classes inside it. -/
def Module.classes (p : Module ν) : List (ClassDecl ν) :=
  (((p.visit { Visitor.enterAll with onClass := fun d => do modify (d :: ·); return .enter }
    : StateM (List (ClassDecl ν)) (Module ν)).run []).2).reverse

end Promotion
