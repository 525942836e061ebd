import Promotion.Run
/-!
# Diagnostics

What a run has to tell the user: an error for each marked class without a constructor, if the settings make that an
error, and a warning for each marked parameter that cannot be promoted.
-/
namespace Promotion

inductive Severity where
  | error | warning
deriving DecidableEq, Repr

def Severity.name : Severity → String
  | error => "error"
  | warning => "warning"

/-- A message about a stretch of a source file, which is known by a number. -/
structure Diagnostic where
  severity : Severity
  code : String
  message : String
  file : UInt64
  span : Span
  /-- What is written at the stretch itself. -/
  label : String
  notes : List String
deriving DecidableEq, Repr

namespace Diagnostic

/-- Adds a piece of advice. -/
def withHelp (d : Diagnostic) (help : String) : Diagnostic := { d with notes := d.notes ++ ["help: " ++ help] }

def ofNoConstructor (e : NoConstructorError String) (file : UInt64) : Diagnostic :=
  withHelp
    { severity := .error
      code := "PP0001"
      message := e.message
      file
      span := e.span
      label := "'" ++ e.className ++ "' declares no constructor"
      notes := [] }
    "add a constructor, or remove @paramProperties"

def ofSkipped (s : Skipped String) (file : UInt64) : Diagnostic :=
  withHelp
    { severity := .warning
      code := "PP0002"
      message := "@pp has no effect on a " ++ s.shape.text ++ " in class '" ++ s.className ++ "'"
      file
      span := s.span
      label := "not promoted to a property"
      notes := [] }
    "only parameters that bind a single name can be promoted"

end Diagnostic

/-- The diagnostics of a run: the errors, then the skipped parameters. -/
def Report.diagnostics (r : Report String) (file : UInt64) : List Diagnostic :=
  r.errors.map (Diagnostic.ofNoConstructor · file) ++ r.skipped.map (Diagnostic.ofSkipped · file)

end Promotion
