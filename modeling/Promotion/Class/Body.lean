import Promotion.Tree.Basic
/-!
# Constructor bodies

A constructor may use `this` only after it has called the constructor of its base class, so the assignments of promoted
parameters go directly behind the first `super(…)` statement of the body, and to the front of a body that has none.
Only statements of the body itself count, not those inside its blocks and branches.

The assignment of a parameter `x` is `this.x = x;`.  `Stmt.promoted?` recognises it, whatever its spans.
-/
namespace Promotion

variable {ν : Type}

/-- Whether the statement is a call of the base constructor: `super(…);`. -/
def Stmt.isSuperCall : Stmt ν → Bool
  | .expr (.call (.super _) _ _) _ => true
  | _ => false

/-- The index of the first call of the base constructor in a body. -/
def superCall? (body : List (Stmt ν)) : Option Nat := body.findIdx? Stmt.isSuperCall

/-- Where assignments go in a body. -/
def insertionIndex (body : List (Stmt ν)) : Nat :=
  match superCall? body with
  | some i => i + 1
  | none => 0

/-- The body with the assignments in place. -/
def insertAssignments (body assignments : List (Stmt ν)) : List (Stmt ν) :=
  body.take (insertionIndex body) ++ assignments ++ body.drop (insertionIndex body)

/-- Puts the assignments into a body: the index where the first of them stands, and the body with them in place. -/
def placeAssignments (body assignments : List (Stmt ν)) : Nat × List (Stmt ν) :=
  (insertionIndex body, insertAssignments body assignments)

/-- The statement `this.x = x;`, with the span of the identifier on every node. -/
def Ident.assignment (id : Ident ν) : Stmt ν :=
  .expr (.assign .set (.member (.this id.span) id false id.span) (.ident id) id.span) id.span

/-- The identifier on the right-hand side of a statement `this.x = x;`. -/
def Stmt.promoted? [DecidableEq ν] : Stmt ν → Option (Ident ν)
  | .expr (.assign .set (.member (.this _) property false _) (.ident id) _) _ =>
    if property.name = id.name then some id else none
  | _ => none

end Promotion
