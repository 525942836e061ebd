import Promotion.NameTable
import Promotion.Tree.Basic
/-!
# Drafting trees

Trees are drafted bottom-up in `DraftM`, which carries the table that names are interned in and the span that nodes
get.  `moveTo` sets the span for all nodes drafted from then on.  A function that drafts a node takes its parts ready
made, interns its own names in the order they are mentioned in its doc comment, and stamps every node it makes with the
current span.
-/
namespace Promotion

/-- The names interned so far, and where the next node stands. -/
structure Draft where
  table : NameTable := .empty
  span : Span := .synthetic

/-- Drafting fails only if the table of names is full. -/
abbrev DraftM := StateT Draft Option

namespace DraftM

def moveTo (span : Span) : DraftM Unit := modify ({ · with span })

def here : DraftM Span := return (← get).span

def intern (name : String) : DraftM Symbol := fun d => do
  let (y, table) ← d.table.intern name
  return (y, { d with table })

def ident (name : String) : DraftM (Ident Symbol) := do
  return ⟨← intern name, ← here⟩

/-! ## Expressions -/

def identExpr (name : String) : DraftM (Expr Symbol) := do
  return .ident (← ident name)

def int (value : Int64) : DraftM (Expr Symbol) := do
  return .int value (← here)

def str (value : String) : DraftM (Expr Symbol) := do
  return .str (← intern value) (← here)

def this : DraftM (Expr Symbol) := do
  return .this (← here)

def super : DraftM (Expr Symbol) := do
  return .super (← here)

def call (callee : Expr Symbol) (arguments : List (Expr Symbol)) : DraftM (Expr Symbol) := do
  return .call callee arguments (← here)

def member (object : Expr Symbol) (property : String) : DraftM (Expr Symbol) := do
  return .member object (← ident property) false (← here)

def assign (left right : Expr Symbol) : DraftM (Expr Symbol) := do
  return .assign .set left right (← here)

def paren (inner : Expr Symbol) : DraftM (Expr Symbol) := do
  return .paren inner (← here)

def block (statements : List (Stmt Symbol)) : DraftM (Block Symbol) := do
  return ⟨statements, ← here⟩

/-- An arrow function with a block for its body. -/
def arrow (params : List (Param Symbol)) (body : List (Stmt Symbol)) : DraftM (Expr Symbol) := do
  return .arrow ⟨params, .block (← block body), false, ← here⟩

/-! ## Decorators, patterns and parameters -/

/-- `@name` -/
def decorator (name : String) : DraftM (Decorator Symbol) := do
  return ⟨← identExpr name, ← here⟩

/-- `@name(…)` -/
def decoratorCall (name : String) (arguments : List (Expr Symbol)) : DraftM (Decorator Symbol) := do
  return ⟨← call (← identExpr name) arguments, ← here⟩

def paramWith (pattern : Pattern Symbol) (decorators : List (Decorator Symbol)) : DraftM (Param Symbol) := do
  return ⟨decorators, pattern, none, ← here⟩

def param (name : String) : DraftM (Param Symbol) := do
  paramWith (.ident (← ident name)) []

/-- A parameter with plain decorators: the decorators, then the name. -/
def decoratedParam (name : String) (decorators : List String) : DraftM (Param Symbol) := do
  let decorators ← decorators.mapM decorator
  paramWith (.ident (← ident name)) decorators

/-- `...name` -/
def restPattern (name : String) : DraftM (Pattern Symbol) := do
  return .rest (.ident (← ident name)) (← here)

/-- `x: x`, the key before the value. -/
def propertyPattern (name : String) : DraftM (PropertyPattern Symbol) := do
  return ⟨← ident name, .ident (← ident name), none, ← here⟩

/-- `{ x: x, … }` -/
def objectPattern (names : List String) : DraftM (Pattern Symbol) := do
  return .object (← names.mapM propertyPattern) none (← here)

def slot (name : String) : DraftM (Slot Symbol) := do
  return .item (.ident (← ident name)) none

/-- `[x, …]` -/
def arrayPattern (names : List String) : DraftM (Pattern Symbol) := do
  return .array (← names.mapM slot) none (← here)

/-! ## Statements -/

def exprStmt (value : Expr Symbol) : DraftM (Stmt Symbol) := do
  return .expr value (← here)

/-- `super(…);` -/
def superCall (arguments : List (Expr Symbol)) : DraftM (Stmt Symbol) := do
  exprStmt (← call (← super) arguments)

def ret (value : Option (Expr Symbol)) : DraftM (Stmt Symbol) := do
  return .ret value (← here)

def letDecl (name : String) (initializer : Option (Expr Symbol)) : DraftM (Stmt Symbol) := do
  return .var ⟨.mutable, .ident (← ident name), initializer, ← here⟩

def branch (condition : Expr Symbol) (body : List (Stmt Symbol)) : DraftM (Stmt Symbol) := do
  return .branch condition (.block (← block body)) none (← here)

def function (name : String) (params : List (Param Symbol)) (body : List (Stmt Symbol)) : DraftM (Stmt Symbol) := do
  return .function ⟨← ident name, params, ← block body, false, ← here⟩

/-! ## Classes and modules -/

def ctor (params : List (Param Symbol)) (body : List (Stmt Symbol)) : DraftM (Member Symbol) := do
  return .ctor ⟨params, ← block body, ← here⟩

def method (name : String) (params : List (Param Symbol)) (body : List (Stmt Symbol)) : DraftM (Member Symbol) := do
  return .method [] (← ident name) params (some (← block body)) false false (← here)

def field (name : String) (initializer : Option (Expr Symbol)) : DraftM (Member Symbol) := do
  return .field [] (← ident name) initializer false (← here)

/-- A class without decorators: its name, then the name of its base. -/
def classDecl (name : String) (base : Option String) (members : List (Member Symbol)) :
    DraftM (ClassDecl Symbol) := do
  return ⟨[], ← ident name, ← base.mapM identExpr, members, ← here⟩

/-- A class with plain decorators: the class, then the decorators. -/
def decoratedClass (decorators : List String) (name : String) (base : Option String)
    (members : List (Member Symbol)) : DraftM (ClassDecl Symbol) := do
  let d ← classDecl name base members
  return { d with decorators := ← decorators.mapM decorator }

def module (statements : List (Stmt Symbol)) : DraftM (Module Symbol) := do
  return ⟨statements, ← here⟩

end DraftM

end Promotion
