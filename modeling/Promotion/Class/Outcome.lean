import Promotion.Tree.Basic
/-!
# What became of a class

The outcome of promoting the parameters of one class.  Names are those of the tree, so an outcome over symbols and the
same outcome over text are related by `mapNames`.
-/
namespace Promotion

/-- The shapes of a parameter that binds no single name and cannot be promoted. -/
inductive Shape where
  | array | object | rest
deriving DecidableEq, Repr

def Shape.text : Shape → String
  | array => "array destructuring pattern"
  | object => "object destructuring pattern"
  | rest => "rest parameter"

/-- The shape of a pattern that is no single name. -/
def Pattern.shape? {ν : Type} : Pattern ν → Option Shape
  | .ident _ => none
  | .array .. => some .array
  | .object .. => some .object
  | .rest .. => some .rest

/-- A marked parameter that was left as it is because of its shape. -/
structure Skipped (ν : Type) where
  className : ν
  shape : Shape
  span : Span
deriving DecidableEq, Repr

/-- What was done to a marked class with a constructor. -/
structure Promoted (ν : Type) where
  className : ν
  span : Span
  /-- The promoted parameters, in the order of the parameter list. -/
  properties : List ν
  /-- Where the constructor body calls the base constructor, before anything is inserted. -/
  superCall : Option Nat
  skipped : List (Skipped ν)
deriving DecidableEq, Repr

inductive Outcome (ν : Type) where
  | untouched
  | noConstructor (className : ν) (span : Span)
  | promoted (details : Promoted ν)
deriving DecidableEq, Repr

/-- A marked class has no constructor, and the settings call that an error. -/
structure NoConstructorError (ν : Type) where
  className : ν
  span : Span
deriving DecidableEq, Repr

def NoConstructorError.message (e : NoConstructorError String) : String :=
  "Class '" ++ e.className ++ "' is marked with @paramProperties but has no constructor"

variable {ν : Type}

namespace Outcome

def wasMarked : Outcome ν → Bool
  | untouched => false
  | _ => true

def isPromoted : Outcome ν → Bool
  | promoted _ => true
  | _ => false

/-- The names of the promoted parameters. -/
def properties : Outcome ν → List ν
  | promoted p => p.properties
  | _ => []

def skipped : Outcome ν → List (Skipped ν)
  | promoted p => p.skipped
  | _ => []

end Outcome

section Names

variable {m : Type → Type} [Monad m] {μ : Type}

def Skipped.mapNames (f : ν → m μ) (x : Skipped ν) : m (Skipped μ) := do
  return ⟨← f x.className, x.shape, x.span⟩

def Promoted.mapNames (f : ν → m μ) (p : Promoted ν) : m (Promoted μ) := do
  return ⟨← f p.className, p.span, ← p.properties.mapM f, p.superCall, ← p.skipped.mapM (Skipped.mapNames f)⟩

def Outcome.mapNames (f : ν → m μ) : Outcome ν → m (Outcome μ)
  | .untouched => return .untouched
  | .noConstructor c s => do return .noConstructor (← f c) s
  | .promoted p => do return .promoted (← p.mapNames f)

def NoConstructorError.mapNames (f : ν → m μ) (e : NoConstructorError ν) : m (NoConstructorError μ) := do
  return ⟨← f e.className, e.span⟩

end Names

end Promotion
