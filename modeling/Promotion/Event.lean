import Promotion.Class.Outcome
/-!
# The log

What happens during a run is told as `Event`s.  `Event.line` gives their wording: a level, a message and named fields.
-/
namespace Promotion

inductive Event (ν : Type) where
  /-- A run over a file begins. -/
  | opened (file : String)
  /-- The settings promote all parameters. -/
  | allParametersDeprecated
  | promoting (className property : ν)
  | skipping (className : ν) (shape : Shape) (line column : UInt32)
  | noConstructor (className : ν)
  | applied (className : ν) (promoted : Nat) (superCall : Option Nat)
  | complete (classes properties errors : Nat)
  /-- The run is over. -/
  | closed
deriving DecidableEq, Repr

inductive Level where
  | trace | debug | warn
deriving DecidableEq, Repr

def Level.name : Level → String
  | trace => "TRACE"
  | debug => "DEBUG"
  | warn => "WARN"

inductive FieldValue where
  | text (value : String)
  | number (value : Nat)
deriving DecidableEq, Repr

inductive LogLine where
  | message (level : Level) (text : String) (fields : List (String × FieldValue))
  | opened (level : Level) (scope : String) (fields : List (String × FieldValue))
  | closed (scope : String)
deriving DecidableEq, Repr

namespace Event

/-- The scope that the events of a run belong to. -/
def runScope : String := "param_properties"

/-- An index that may be absent, as it is written in the log. -/
def indexText : Option Nat → String
  | some i => "Some(" ++ toString i ++ ")"
  | none => "None"

def line : Event String → LogLine
  | opened file => .opened .debug runScope [("file", .text file)]
  | allParametersDeprecated =>
    .message .warn "eligibility = \"all-parameters\" is deprecated; mark parameters with @pp instead" []
  | promoting c p => .message .trace "promoting parameter" [("class", .text c), ("property", .text p)]
  | skipping c shape line column =>
    .message .warn ("cannot promote " ++ shape.text ++ "; parameter left unchanged")
      [("class", .text c), ("line", .number line.toNat), ("column", .number column.toNat)]
  | noConstructor c => .message .debug "marked class has no constructor" [("class", .text c)]
  | applied c n i =>
    .message .debug "applied parameter properties"
      [("class", .text c), ("promoted", .number n), ("super_call", .text (indexText i))]
  | complete c p e =>
    .message .debug "pass complete" [("classes", .number c), ("properties", .number p), ("errors", .number e)]
  | closed => .closed runScope

variable {m : Type → Type} [Monad m] {ν μ : Type}

def mapNames (f : ν → m μ) : Event ν → m (Event μ)
  | opened file => return opened file
  | allParametersDeprecated => return allParametersDeprecated
  | promoting c p => do return promoting (← f c) (← f p)
  | skipping c shape line column => do return skipping (← f c) shape line column
  | noConstructor c => do return noConstructor (← f c)
  | applied c n i => do return applied (← f c) n i
  | complete c p e => return complete c p e
  | closed => return closed

end Event

end Promotion
