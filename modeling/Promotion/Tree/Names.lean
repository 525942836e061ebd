import Promotion.NameTable
import Promotion.Tree.Basic
/-!
# Mapping the names of a tree

`mapNames f` replaces every name of a tree, string literals included, by what `f` makes of it, and leaves all else as
it is.  The names are taken in source order, and `f` may have effects: interning a tree with text names and resolving a
tree of symbols are both `mapNames`.
-/
namespace Promotion

variable {m : Type → Type} [Monad m] {ν μ : Type}

def Ident.mapNames (f : ν → m μ) (id : Ident ν) : m (Ident μ) := do
  return ⟨← f id.name, id.span⟩

def Ident.mapNamesOpt (f : ν → m μ) : Option (Ident ν) → m (Option (Ident μ))
  | none => return none
  | some id => do return some (← id.mapNames f)

def ExportName.mapNames (f : ν → m μ) (n : ExportName ν) : m (ExportName μ) := do
  return ⟨← n.name.mapNames f, ← Ident.mapNamesOpt f n.exportedAs⟩

mutual

def Expr.mapNames (f : ν → m μ) : Expr ν → m (Expr μ)
  | .int v s => return .int v s
  | .str v s => do return .str (← f v) s
  | .bool v s => return .bool v s
  | .null s => return .null s
  | .ident id => do return .ident (← id.mapNames f)
  | .array es s => do return .array (← Expr.mapNamesAll f es) s
  | .assign op l r s => do return .assign op (← l.mapNames f) (← r.mapNames f) s
  | .call c as s => do return .call (← c.mapNames f) (← Expr.mapNamesAll f as) s
  | .member o p opt s => do return .member (← o.mapNames f) (← p.mapNames f) opt s
  | .new c as s => do return .new (← c.mapNames f) (← Expr.mapNamesAll f as) s
  | .arrow fn => do return .arrow (← fn.mapNames f)
  | .paren e s => do return .paren (← e.mapNames f) s
  | .this s => return .this s
  | .super s => return .super s

def Expr.mapNamesAll (f : ν → m μ) : List (Expr ν) → m (List (Expr μ))
  | [] => return []
  | e :: es => do return (← e.mapNames f) :: (← Expr.mapNamesAll f es)

def Expr.mapNamesOpt (f : ν → m μ) : Option (Expr ν) → m (Option (Expr μ))
  | none => return none
  | some e => do return some (← e.mapNames f)

def Arrow.mapNames (f : ν → m μ) : Arrow ν → m (Arrow μ)
  | ⟨ps, b, a, s⟩ => do return ⟨← Param.mapNamesAll f ps, ← b.mapNames f, a, s⟩

def ArrowBody.mapNames (f : ν → m μ) : ArrowBody ν → m (ArrowBody μ)
  | .expr e => do return .expr (← e.mapNames f)
  | .block b => do return .block (← b.mapNames f)

def Pattern.mapNames (f : ν → m μ) : Pattern ν → m (Pattern μ)
  | .ident id => do return .ident (← id.mapNames f)
  | .array ss r s => do return .array (← Slot.mapNamesAll f ss) (← Pattern.mapNamesOpt f r) s
  | .object ps r s => do return .object (← PropertyPattern.mapNamesAll f ps) (← Ident.mapNamesOpt f r) s
  | .rest p s => do return .rest (← p.mapNames f) s

def Pattern.mapNamesOpt (f : ν → m μ) : Option (Pattern ν) → m (Option (Pattern μ))
  | none => return none
  | some p => do return some (← p.mapNames f)

def Slot.mapNames (f : ν → m μ) : Slot ν → m (Slot μ)
  | .hole => return .hole
  | .item p d => do return .item (← p.mapNames f) (← Expr.mapNamesOpt f d)

def Slot.mapNamesAll (f : ν → m μ) : List (Slot ν) → m (List (Slot μ))
  | [] => return []
  | x :: xs => do return (← x.mapNames f) :: (← Slot.mapNamesAll f xs)

def PropertyPattern.mapNames (f : ν → m μ) : PropertyPattern ν → m (PropertyPattern μ)
  | ⟨k, v, d, s⟩ => do return ⟨← k.mapNames f, ← v.mapNames f, ← Expr.mapNamesOpt f d, s⟩

def PropertyPattern.mapNamesAll (f : ν → m μ) : List (PropertyPattern ν) → m (List (PropertyPattern μ))
  | [] => return []
  | p :: ps => do return (← p.mapNames f) :: (← PropertyPattern.mapNamesAll f ps)

def Param.mapNames (f : ν → m μ) : Param ν → m (Param μ)
  | ⟨ds, p, d, s⟩ => do return ⟨← Decorator.mapNamesAll f ds, ← p.mapNames f, ← Expr.mapNamesOpt f d, s⟩

def Param.mapNamesAll (f : ν → m μ) : List (Param ν) → m (List (Param μ))
  | [] => return []
  | p :: ps => do return (← p.mapNames f) :: (← Param.mapNamesAll f ps)

def Decorator.mapNames (f : ν → m μ) : Decorator ν → m (Decorator μ)
  | ⟨e, s⟩ => do return ⟨← e.mapNames f, s⟩

def Decorator.mapNamesAll (f : ν → m μ) : List (Decorator ν) → m (List (Decorator μ))
  | [] => return []
  | d :: ds => do return (← d.mapNames f) :: (← Decorator.mapNamesAll f ds)

def Block.mapNames (f : ν → m μ) : Block ν → m (Block μ)
  | ⟨ss, s⟩ => do return ⟨← Stmt.mapNamesAll f ss, s⟩

def Block.mapNamesOpt (f : ν → m μ) : Option (Block ν) → m (Option (Block μ))
  | none => return none
  | some b => do return some (← b.mapNames f)

def VarDecl.mapNames (f : ν → m μ) : VarDecl ν → m (VarDecl μ)
  | ⟨k, p, i, s⟩ => do return ⟨k, ← p.mapNames f, ← Expr.mapNamesOpt f i, s⟩

def FunctionDecl.mapNames (f : ν → m μ) : FunctionDecl ν → m (FunctionDecl μ)
  | ⟨n, ps, b, a, s⟩ => do return ⟨← n.mapNames f, ← Param.mapNamesAll f ps, ← b.mapNames f, a, s⟩

def ClassDecl.mapNames (f : ν → m μ) : ClassDecl ν → m (ClassDecl μ)
  | ⟨ds, n, b, ms, s⟩ => do
    return ⟨← Decorator.mapNamesAll f ds, ← n.mapNames f, ← Expr.mapNamesOpt f b, ← Member.mapNamesAll f ms, s⟩

def Member.mapNames (f : ν → m μ) : Member ν → m (Member μ)
  | .field ds n i st s => do
    return .field (← Decorator.mapNamesAll f ds) (← n.mapNames f) (← Expr.mapNamesOpt f i) st s
  | .method ds n ps b st a s => do
    return .method (← Decorator.mapNamesAll f ds) (← n.mapNames f) (← Param.mapNamesAll f ps)
      (← Block.mapNamesOpt f b) st a s
  | .ctor c => do return .ctor (← c.mapNames f)

def Member.mapNamesAll (f : ν → m μ) : List (Member ν) → m (List (Member μ))
  | [] => return []
  | x :: xs => do return (← x.mapNames f) :: (← Member.mapNamesAll f xs)

def Ctor.mapNames (f : ν → m μ) : Ctor ν → m (Ctor μ)
  | ⟨ps, b, s⟩ => do return ⟨← Param.mapNamesAll f ps, ← b.mapNames f, s⟩

def Stmt.mapNames (f : ν → m μ) : Stmt ν → m (Stmt μ)
  | .var d => do return .var (← d.mapNames f)
  | .function d => do return .function (← d.mapNames f)
  | .classDef d => do return .classDef (← d.mapNames f)
  | .exportDecl d => do return .exportDecl (← d.mapNames f)
  | .exportNames ns s => do return .exportNames (← ns.mapM (ExportName.mapNames f)) s
  | .expr e s => do return .expr (← e.mapNames f) s
  | .branch c t e s => do return .branch (← c.mapNames f) (← t.mapNames f) (← Stmt.mapNamesOpt f e) s
  | .loop c b s => do return .loop (← c.mapNames f) (← b.mapNames f) s
  | .ret v s => do return .ret (← Expr.mapNamesOpt f v) s
  | .throw v s => do return .throw (← v.mapNames f) s
  | .block b => do return .block (← b.mapNames f)
  | .empty s => return .empty s

def Stmt.mapNamesAll (f : ν → m μ) : List (Stmt ν) → m (List (Stmt μ))
  | [] => return []
  | x :: xs => do return (← x.mapNames f) :: (← Stmt.mapNamesAll f xs)

def Stmt.mapNamesOpt (f : ν → m μ) : Option (Stmt ν) → m (Option (Stmt μ))
  | none => return none
  | some x => do return some (← x.mapNames f)

end

def Module.mapNames (f : ν → m μ) (p : Module ν) : m (Module μ) := do
  return ⟨← Stmt.mapNamesAll f p.statements, p.span⟩

/-- Interns names as they come: a step of `mapNames` that takes text to symbols. -/
abbrev Interning := StateT NameTable Option

def Interning.name (s : String) : Interning Symbol := fun t => t.intern s

end Promotion
