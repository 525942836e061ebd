import Promotion.Class.Promote
import Promotion.Tree.Visit
/-!
# Promoting a module

A run promotes the parameters of every class of a module, at any depth: a class first, then the classes inside it as
they stand in the class already promoted.  One class that cannot be promoted does not keep others from it.

A class is entered by a fresh walk over its promoted form, so the walks nest as deep as the classes do.  The depth is an
argument that counts down, and the number of classes in the module is always enough.
-/
namespace Promotion

/-- What a run over a module came to. -/
structure Report (ν : Type) where
  file : String
  /-- One outcome per marked class without an error, in the order of the walk. -/
  outcomes : List (Outcome ν)
  errors : List (NoConstructorError ν)
  events : List (Event ν)

namespace Report

variable {ν : Type}

def isOk (r : Report ν) : Bool := r.errors.isEmpty

/-- How many classes had their constructor promoted. -/
def classCount (r : Report ν) : Nat := r.outcomes.countP (·.isPromoted)

/-- How many parameters were promoted. -/
def propertyCount (r : Report ν) : Nat := (r.outcomes.flatMap (·.properties)).length

/-- The marked parameters that were left as they are. -/
def skipped (r : Report ν) : List (Skipped ν) := r.outcomes.flatMap (·.skipped)

/-- The report with every name replaced. -/
def mapNames {m : Type → Type} [Monad m] {μ : Type} (f : ν → m μ) (r : Report ν) : m (Report μ) := do
  return ⟨r.file, ← r.outcomes.mapM (Outcome.mapNames f), ← r.errors.mapM (NoConstructorError.mapNames f),
    ← r.events.mapM (Event.mapNames f)⟩

end Report

variable {ν : Type} [DecidableEq ν]

/-- Promotes the classes it meets, and those inside them down to the given depth. -/
def promoter (r : Rules ν) : Nat → Visitor (StateM (Array (ClassReport ν))) ν
  | 0 => Visitor.enterAll
  | depth + 1 =>
    { Visitor.enterAll with
      onClass := fun d => do
        let (d', report) := d.promote r
        modify (·.push report)
        return .replace (← d'.descend (promoter r depth)) }

namespace Module

/-- The module with the parameters of all its classes promoted, and a report on each class in the order of the walk. -/
def promoteClasses (r : Rules ν) (p : Module ν) : Module ν × List (ClassReport ν) :=
  let (p', reports) := (p.visit (promoter r p.classes.length)).run #[]
  (p', reports.toList)

/-- The module with the parameters of all its classes promoted, and the report of the run. -/
def promote (r : Rules ν) (file : String) (p : Module ν) : Module ν × Report ν :=
  let (p', reports) := p.promoteClasses r
  let outcomes := reports.filterMap fun c => c.result.toOption.filter (·.wasMarked)
  let errors := reports.filterMap fun c => match c.result with
    | .error e => some e
    | .ok _ => none
  let report : Report ν := ⟨file, outcomes, errors, []⟩
  let warning := if r.settings.eligibility = .allParameters then [.allParametersDeprecated] else []
  let total := .complete report.classCount report.propertyCount errors.length
  (p', { report with
    events := .opened file :: warning ++ reports.flatMap (·.events) ++ [total, .closed] })

end Module

end Promotion
