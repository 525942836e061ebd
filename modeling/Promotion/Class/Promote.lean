import Promotion.Class.Body
import Promotion.Class.Marker
import Promotion.Event
import Promotion.Settings
/-!
# Promoting the parameters of one class

A marked class loses its class markers.  In its first constructor each eligible parameter that binds a single name loses
its parameter markers, and `this.x = x;` is added to the body for it (`insertAssignments`).  A marked parameter of
another shape stays as it is, marker included, and is reported as skipped.  Everything else in the class stays.

A class that is not marked stays as it is, whatever its parameters carry.
-/
namespace Promotion

/-- What promotion goes by: the settings, and the names of the markers in the tree at hand. -/
structure Rules (ν : Type) where
  settings : Settings
  markers : Markers ν

/-- What promoting one class came to. -/
structure ClassReport (ν : Type) where
  result : Except (NoConstructorError ν) (Outcome ν)
  events : List (Event ν)

/-- The rules for trees with the symbols of a table. -/
def Settings.rules (s : Settings) (t : NameTable) : Rules Symbol := ⟨s, t.markers⟩

variable {ν : Type} [DecidableEq ν]

/-- The identifier of a parameter that is promoted. -/
def Param.promoted? (r : Rules ν) (p : Param ν) : Option (Ident ν) :=
  if p.isMarked r.markers || r.settings.eligibility = .allParameters then p.ident? else none

/-- The shape of a parameter that is marked but cannot be promoted. -/
def Param.skipped? (r : Rules ν) (p : Param ν) : Option Shape :=
  if p.isMarked r.markers then p.pattern.shape? else none

/-- The parameter as it is after promotion: its markers are gone if it is promoted. -/
def Param.promote (r : Rules ν) (p : Param ν) : Param ν :=
  if (p.promoted? r).isSome then p.stripMarkers r.markers else p

/-- What the log says about a parameter of the class `c`. -/
def Param.event? (r : Rules ν) (c : ν) (p : Param ν) : Option (Event ν) :=
  match p.promoted? r, p.skipped? r with
  | some id, _ => some (.promoting c id.name)
  | none, some shape => some (.skipping c shape p.span.line p.span.column)
  | none, none => none

/-- The identifiers of the promoted parameters, in order. -/
def Ctor.promoted (r : Rules ν) (c : Ctor ν) : List (Ident ν) := c.params.filterMap (·.promoted? r)

/-- The constructor with its eligible parameters promoted. -/
def Ctor.promote (r : Rules ν) (c : Ctor ν) : Ctor ν :=
  { c with
    params := c.params.map (·.promote r)
    body := { c.body with
      statements := insertAssignments c.body.statements ((c.promoted r).map Ident.assignment) } }

/-- The first constructor among the members of a class. -/
def Member.ctor? : List (Member ν) → Option (Ctor ν)
  | [] => none
  | .ctor c :: _ => some c
  | _ :: ms => ctor? ms

/-- The members with the first constructor replaced by what `f` makes of it. -/
def Member.mapCtor (f : Ctor ν → Ctor ν) : List (Member ν) → List (Member ν)
  | [] => []
  | .ctor c :: ms => .ctor (f c) :: ms
  | x :: ms => x :: mapCtor f ms

namespace ClassDecl

def ctor? (d : ClassDecl ν) : Option (Ctor ν) := Member.ctor? d.members

def mapCtor (f : Ctor ν → Ctor ν) (d : ClassDecl ν) : ClassDecl ν := { d with members := Member.mapCtor f d.members }

/-- What promoting the parameters of `c`, the first constructor of `d`, came to. -/
def promoted (r : Rules ν) (d : ClassDecl ν) (c : Ctor ν) : Promoted ν where
  className := d.name.name
  span := d.span
  properties := (c.promoted r).map (·.name)
  superCall := superCall? c.body.statements
  skipped := c.params.filterMap fun p => (p.skipped? r).map fun shape => ⟨d.name.name, shape, p.span⟩

/-- The class with its parameters promoted, and what that came to. -/
def promote (r : Rules ν) (d : ClassDecl ν) : ClassDecl ν × ClassReport ν :=
  if (d.marker? r.markers).isNone then (d, ⟨.ok .untouched, []⟩)
  else
    match d.ctor?, r.settings.missingConstructor with
    | some c, _ =>
      let p := d.promoted r c
      ((d.stripMarkers r.markers).mapCtor (·.promote r),
        ⟨.ok (.promoted p), c.params.filterMap (·.event? r p.className) ++
          [.applied p.className p.properties.length p.superCall]⟩)
    | none, .ignore =>
      (d.stripMarkers r.markers, ⟨.ok (.noConstructor d.name.name d.span), [.noConstructor d.name.name]⟩)
    | none, .error => (d.stripMarkers r.markers, ⟨.error ⟨d.name.name, d.span⟩, []⟩)

end ClassDecl

end Promotion
