import Promotion.Tree.Basic
/-!
# Mapping the classes of a tree from the inside out

`mapClasses f` replaces every class declaration of a tree by what `f` makes of it, after the classes inside it have been
replaced.  The order is the opposite of that of a run, which promotes a class before it goes into it.  The recursion is
on the tree alone and asks for nothing like a depth.
-/
namespace Promotion

variable {m : Type → Type} [Monad m] {ν : Type}

mutual

def Expr.mapClasses (f : ClassDecl ν → m (ClassDecl ν)) : Expr ν → m (Expr ν)
  | .array es s => do return .array (← Expr.mapClassesAll f es) s
  | .assign op l r s => do return .assign op (← l.mapClasses f) (← r.mapClasses f) s
  | .call c as s => do return .call (← c.mapClasses f) (← Expr.mapClassesAll f as) s
  | .member o p opt s => do return .member (← o.mapClasses f) p opt s
  | .new c as s => do return .new (← c.mapClasses f) (← Expr.mapClassesAll f as) s
  | .arrow fn => do return .arrow (← fn.mapClasses f)
  | .paren e s => do return .paren (← e.mapClasses f) s
  | .int n s => return .int n s
  | .str n s => return .str n s
  | .bool b s => return .bool b s
  | .null s => return .null s
  | .ident id => return .ident id
  | .this s => return .this s
  | .super s => return .super s

def Expr.mapClassesAll (f : ClassDecl ν → m (ClassDecl ν)) : List (Expr ν) → m (List (Expr ν))
  | [] => return []
  | e :: es => do return (← e.mapClasses f) :: (← Expr.mapClassesAll f es)

def Expr.mapClassesOpt (f : ClassDecl ν → m (ClassDecl ν)) : Option (Expr ν) → m (Option (Expr ν))
  | none => return none
  | some e => do return some (← e.mapClasses f)

def Arrow.mapClasses (f : ClassDecl ν → m (ClassDecl ν)) : Arrow ν → m (Arrow ν)
  | ⟨ps, b, a, s⟩ => do return ⟨← Param.mapClassesAll f ps, ← b.mapClasses f, a, s⟩

def ArrowBody.mapClasses (f : ClassDecl ν → m (ClassDecl ν)) : ArrowBody ν → m (ArrowBody ν)
  | .expr e => do return .expr (← e.mapClasses f)
  | .block b => do return .block (← b.mapClasses f)

def Pattern.mapClasses (f : ClassDecl ν → m (ClassDecl ν)) : Pattern ν → m (Pattern ν)
  | .ident id => return .ident id
  | .array ss r s => do return .array (← Slot.mapClassesAll f ss) (← Pattern.mapClassesOpt f r) s
  | .object ps r s => do return .object (← PropertyPattern.mapClassesAll f ps) r s
  | .rest p s => do return .rest (← p.mapClasses f) s

def Pattern.mapClassesOpt (f : ClassDecl ν → m (ClassDecl ν)) : Option (Pattern ν) → m (Option (Pattern ν))
  | none => return none
  | some p => do return some (← p.mapClasses f)

def Slot.mapClasses (f : ClassDecl ν → m (ClassDecl ν)) : Slot ν → m (Slot ν)
  | .hole => return .hole
  | .item p d => do return .item (← p.mapClasses f) (← Expr.mapClassesOpt f d)

def Slot.mapClassesAll (f : ClassDecl ν → m (ClassDecl ν)) : List (Slot ν) → m (List (Slot ν))
  | [] => return []
  | x :: xs => do return (← x.mapClasses f) :: (← Slot.mapClassesAll f xs)

def PropertyPattern.mapClasses (f : ClassDecl ν → m (ClassDecl ν)) : PropertyPattern ν → m (PropertyPattern ν)
  | ⟨k, p, d, s⟩ => do return ⟨k, ← p.mapClasses f, ← Expr.mapClassesOpt f d, s⟩

def PropertyPattern.mapClassesAll (f : ClassDecl ν → m (ClassDecl ν)) :
    List (PropertyPattern ν) → m (List (PropertyPattern ν))
  | [] => return []
  | p :: ps => do return (← p.mapClasses f) :: (← PropertyPattern.mapClassesAll f ps)

def Param.mapClasses (f : ClassDecl ν → m (ClassDecl ν)) : Param ν → m (Param ν)
  | ⟨ds, p, d, s⟩ => do return ⟨← Decorator.mapClassesAll f ds, ← p.mapClasses f, ← Expr.mapClassesOpt f d, s⟩

def Param.mapClassesAll (f : ClassDecl ν → m (ClassDecl ν)) : List (Param ν) → m (List (Param ν))
  | [] => return []
  | p :: ps => do return (← p.mapClasses f) :: (← Param.mapClassesAll f ps)

def Decorator.mapClasses (f : ClassDecl ν → m (ClassDecl ν)) : Decorator ν → m (Decorator ν)
  | ⟨e, s⟩ => do return ⟨← e.mapClasses f, s⟩

def Decorator.mapClassesAll (f : ClassDecl ν → m (ClassDecl ν)) : List (Decorator ν) → m (List (Decorator ν))
  | [] => return []
  | d :: ds => do return (← d.mapClasses f) :: (← Decorator.mapClassesAll f ds)

def Block.mapClasses (f : ClassDecl ν → m (ClassDecl ν)) : Block ν → m (Block ν)
  | ⟨ss, s⟩ => do return ⟨← Stmt.mapClassesAll f ss, s⟩

def Block.mapClassesOpt (f : ClassDecl ν → m (ClassDecl ν)) : Option (Block ν) → m (Option (Block ν))
  | none => return none
  | some b => do return some (← b.mapClasses f)

def VarDecl.mapClasses (f : ClassDecl ν → m (ClassDecl ν)) : VarDecl ν → m (VarDecl ν)
  | ⟨k, p, i, s⟩ => do return ⟨k, ← p.mapClasses f, ← Expr.mapClassesOpt f i, s⟩

def FunctionDecl.mapClasses (f : ClassDecl ν → m (ClassDecl ν)) : FunctionDecl ν → m (FunctionDecl ν)
  | ⟨n, ps, b, a, s⟩ => do return ⟨n, ← Param.mapClassesAll f ps, ← b.mapClasses f, a, s⟩

/-- Replaces the classes inside a class, and leaves the class itself to the caller. -/
def ClassDecl.mapInside (f : ClassDecl ν → m (ClassDecl ν)) : ClassDecl ν → m (ClassDecl ν)
  | ⟨ds, n, b, ms, s⟩ => do
    return ⟨← Decorator.mapClassesAll f ds, n, ← Expr.mapClassesOpt f b, ← Member.mapClassesAll f ms, s⟩

def Member.mapClasses (f : ClassDecl ν → m (ClassDecl ν)) : Member ν → m (Member ν)
  | .field ds n i st s => do
    return .field (← Decorator.mapClassesAll f ds) n (← Expr.mapClassesOpt f i) st s
  | .method ds n ps b st a s => do
    return .method (← Decorator.mapClassesAll f ds) n (← Param.mapClassesAll f ps) (← Block.mapClassesOpt f b) st a s
  | .ctor c => do return .ctor (← c.mapClasses f)

def Member.mapClassesAll (f : ClassDecl ν → m (ClassDecl ν)) : List (Member ν) → m (List (Member ν))
  | [] => return []
  | x :: xs => do return (← x.mapClasses f) :: (← Member.mapClassesAll f xs)

def Ctor.mapClasses (f : ClassDecl ν → m (ClassDecl ν)) : Ctor ν → m (Ctor ν)
  | ⟨ps, b, s⟩ => do return ⟨← Param.mapClassesAll f ps, ← b.mapClasses f, s⟩

def Stmt.mapClasses (f : ClassDecl ν → m (ClassDecl ν)) : Stmt ν → m (Stmt ν)
  | .var d => do return .var (← d.mapClasses f)
  | .function d => do return .function (← d.mapClasses f)
  | .classDef d => do return .classDef (← f (← d.mapInside f))
  | .exportDecl d => do return .exportDecl (← d.mapClasses f)
  | .exportNames ns s => return .exportNames ns s
  | .expr e s => do return .expr (← e.mapClasses f) s
  | .branch c t e s => do return .branch (← c.mapClasses f) (← t.mapClasses f) (← Stmt.mapClassesOpt f e) s
  | .loop c b s => do return .loop (← c.mapClasses f) (← b.mapClasses f) s
  | .ret e s => do return .ret (← Expr.mapClassesOpt f e) s
  | .throw e s => do return .throw (← e.mapClasses f) s
  | .block b => do return .block (← b.mapClasses f)
  | .empty s => return .empty s

def Stmt.mapClassesAll (f : ClassDecl ν → m (ClassDecl ν)) : List (Stmt ν) → m (List (Stmt ν))
  | [] => return []
  | x :: xs => do return (← x.mapClasses f) :: (← Stmt.mapClassesAll f xs)

def Stmt.mapClassesOpt (f : ClassDecl ν → m (ClassDecl ν)) : Option (Stmt ν) → m (Option (Stmt ν))
  | none => return none
  | some x => do return some (← x.mapClasses f)

end

def ClassDecl.mapClasses (f : ClassDecl ν → m (ClassDecl ν)) (d : ClassDecl ν) : m (ClassDecl ν) := do
  f (← d.mapInside f)

def Module.mapClasses (f : ClassDecl ν → m (ClassDecl ν)) (p : Module ν) : m (Module ν) := do
  return ⟨← Stmt.mapClassesAll f p.statements, p.span⟩

end Promotion
