import Promotion.Span
/-!
# The syntax tree

Modules of a class-based scripting language with decorators: expressions, binding patterns, statements, and classes
whose constructors are what the library works on.  Every node carries the span it was read from.

The tree is generic in the type `ν` of its names.  Programs are held with interned names (`Stmt Symbol`), and resolving
them gives the same tree with text (`Stmt String`); string literals hold a name of type `ν` too.  The types refer to one
another, so they are declared together, and functions on the tree come in families with a member for each type and for
each kind of list in it.
-/
namespace Promotion

/-- A name where it stands. -/
structure Ident (ν : Type) where
  name : ν
  span : Span
deriving DecidableEq, Repr

/-- How an assignment combines the old value with the new one. -/
inductive AssignOp where
  | set | add | sub | mul | div
deriving DecidableEq, Repr

/-- Whether a variable may be assigned again. -/
inductive VarKind where
  | mutable | constant
deriving DecidableEq, Repr

/-- One name of an export list, and the name it is exported under if that is another one. -/
structure ExportName (ν : Type) where
  name : Ident ν
  exportedAs : Option (Ident ν)
deriving DecidableEq, Repr

mutual

inductive Expr (ν : Type) : Type where
  | int (value : Int64) (span : Span)
  | str (value : ν) (span : Span)
  | bool (value : Bool) (span : Span)
  | null (span : Span)
  | ident (id : Ident ν)
  | array (elements : List (Expr ν)) (span : Span)
  | assign (op : AssignOp) (left right : Expr ν) (span : Span)
  | call (callee : Expr ν) (arguments : List (Expr ν)) (span : Span)
  | member (object : Expr ν) (property : Ident ν) (isOptional : Bool) (span : Span)
  | new (callee : Expr ν) (arguments : List (Expr ν)) (span : Span)
  | arrow (function : Arrow ν)
  | paren (inner : Expr ν) (span : Span)
  | this (span : Span)
  | super (span : Span)

/-- A function written with an arrow. -/
structure Arrow (ν : Type) : Type where
  params : List (Param ν)
  body : ArrowBody ν
  isAsync : Bool
  span : Span

inductive ArrowBody (ν : Type) : Type where
  | expr (value : Expr ν)
  | block (body : Block ν)

/-- What a parameter or a variable binds. -/
inductive Pattern (ν : Type) : Type where
  | ident (id : Ident ν)
  | array (slots : List (Slot ν)) (rest : Option (Pattern ν)) (span : Span)
  | object (properties : List (PropertyPattern ν)) (rest : Option (Ident ν)) (span : Span)
  | rest (argument : Pattern ν) (span : Span)

/-- One place of an array pattern, which may be left empty. -/
inductive Slot (ν : Type) : Type where
  | hole
  | item (pattern : Pattern ν) (default : Option (Expr ν))

structure PropertyPattern (ν : Type) : Type where
  key : Ident ν
  value : Pattern ν
  default : Option (Expr ν)
  span : Span

structure Param (ν : Type) : Type where
  decorators : List (Decorator ν)
  pattern : Pattern ν
  default : Option (Expr ν)
  span : Span

structure Decorator (ν : Type) : Type where
  expr : Expr ν
  span : Span

structure Block (ν : Type) : Type where
  statements : List (Stmt ν)
  span : Span

structure VarDecl (ν : Type) : Type where
  kind : VarKind
  pattern : Pattern ν
  initializer : Option (Expr ν)
  span : Span

structure FunctionDecl (ν : Type) : Type where
  name : Ident ν
  params : List (Param ν)
  body : Block ν
  isAsync : Bool
  span : Span

structure ClassDecl (ν : Type) : Type where
  decorators : List (Decorator ν)
  name : Ident ν
  base : Option (Expr ν)
  members : List (Member ν)
  span : Span

inductive Member (ν : Type) : Type where
  | field (decorators : List (Decorator ν)) (name : Ident ν) (initializer : Option (Expr ν)) (isStatic : Bool)
      (span : Span)
  | method (decorators : List (Decorator ν)) (name : Ident ν) (params : List (Param ν)) (body : Option (Block ν))
      (isStatic isAsync : Bool) (span : Span)
  | ctor (constructor : Ctor ν)

/-- A constructor of a class. -/
structure Ctor (ν : Type) : Type where
  params : List (Param ν)
  body : Block ν
  span : Span

inductive Stmt (ν : Type) : Type where
  | var (decl : VarDecl ν)
  | function (decl : FunctionDecl ν)
  | classDef (decl : ClassDecl ν)
  | exportDecl (decl : Stmt ν)
  | exportNames (names : List (ExportName ν)) (span : Span)
  | expr (value : Expr ν) (span : Span)
  | branch (condition : Expr ν) (thenStmt : Stmt ν) (elseStmt : Option (Stmt ν)) (span : Span)
  | loop (condition : Expr ν) (body : Stmt ν) (span : Span)
  | ret (value : Option (Expr ν)) (span : Span)
  | throw (value : Expr ν) (span : Span)
  | block (body : Block ν)
  | empty (span : Span)

end

/-- A source file. -/
structure Module (ν : Type) : Type where
  statements : List (Stmt ν)
  span : Span

variable {ν : Type}

/-- The name of a decorator that is a plain name: no call, no member access, no parentheses. -/
def Decorator.bareName : Decorator ν → Option ν
  | ⟨.ident id, _⟩ => some id.name
  | _ => none

/-- The identifier that a parameter binds, if it binds a single name. -/
def Param.ident? (p : Param ν) : Option (Ident ν) :=
  match p.pattern with
  | .ident id => some id
  | _ => none

end Promotion
