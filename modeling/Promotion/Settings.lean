/-!
# Settings

The two choices a user has: which parameters are promoted, and what a marked class without a constructor means.  Both
have a name that stands in manifests and in serialized settings.
-/
namespace Promotion

/-- Which parameters of a marked class are promoted. -/
inductive Eligibility where
  /-- Those that carry the parameter marker. -/
  | perParameter
  /-- All that bind a single name. -/
  | allParameters
deriving DecidableEq, Repr

namespace Eligibility

def name : Eligibility → String
  | perParameter => "per-parameter"
  | allParameters => "all-parameters"

def all : List Eligibility := [perParameter, allParameters]

end Eligibility

/-- What to do with a marked class that has no constructor. -/
inductive MissingConstructor where
  | ignore
  | error
deriving DecidableEq, Repr

namespace MissingConstructor

def name : MissingConstructor → String
  | ignore => "ignore"
  | error => "error"

def all : List MissingConstructor := [ignore, error]

end MissingConstructor

structure Settings where
  eligibility : Eligibility := .perParameter
  missingConstructor : MissingConstructor := .ignore
deriving DecidableEq, Repr

namespace Settings

def withEligibility (s : Settings) (e : Eligibility) : Settings := { s with eligibility := e }

def withMissingConstructor (s : Settings) (m : MissingConstructor) : Settings := { s with missingConstructor := m }

/-- The names of the two settings. -/
def eligibilityKey : String := "eligibility"

def missingConstructorKey : String := "missing-constructor"

/-- The settings as the entries of a manifest table. -/
def toToml (s : Settings) : String :=
  eligibilityKey ++ " = \"" ++ s.eligibility.name ++ "\"\n" ++
    missingConstructorKey ++ " = \"" ++ s.missingConstructor.name ++ "\"\n"

end Settings

end Promotion
