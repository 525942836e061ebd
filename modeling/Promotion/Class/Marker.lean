import Promotion.NameTable
import Promotion.Tree.Basic
/-!
# Markers

A class asks for the promotion of its constructor parameters by the decorator `@paramProperties`, and a parameter is
picked out by `@pp`.  Only a plain name marks: `@pp()`, `@ns.pp` and `@(pp)` are other decorators.

Markers are compared as names of the tree.  A marker that the program never mentions has no symbol, and then nothing is
marked by it.
-/
namespace Promotion

def classMarkerName : String := "paramProperties"

def paramMarkerName : String := "pp"

/-- The names of the two markers, as far as the program mentions them. -/
structure Markers (ν : Type) where
  onClass : Option ν
  onParam : Option ν
deriving DecidableEq

/-- The markers under their symbols in a table. -/
def NameTable.markers (t : NameTable) : Markers Symbol :=
  ⟨t.find? classMarkerName, t.find? paramMarkerName⟩

variable {ν : Type} [DecidableEq ν]

/-- Whether the decorator is the plain name `marker`; nothing is an unknown marker. -/
def Decorator.isMarker (marker : Option ν) (d : Decorator ν) : Bool :=
  match marker, d.bareName with
  | some n, some n' => n = n'
  | _, _ => false

/-- The decorators that are not the marker, in order. -/
def Decorator.strip (marker : Option ν) (ds : List (Decorator ν)) : List (Decorator ν) :=
  ds.filter (!·.isMarker marker)

/-- How many decorators `strip` leaves out. -/
def Decorator.strippedCount (marker : Option ν) (ds : List (Decorator ν)) : Nat :=
  ds.length - (Decorator.strip marker ds).length

/-- The first class marker of a class. -/
def ClassDecl.marker? (ms : Markers ν) (d : ClassDecl ν) : Option (Decorator ν) :=
  d.decorators.find? (·.isMarker ms.onClass)

/-- The class without its class markers. -/
def ClassDecl.stripMarkers (ms : Markers ν) (d : ClassDecl ν) : ClassDecl ν :=
  { d with decorators := Decorator.strip ms.onClass d.decorators }

def Param.isMarked (ms : Markers ν) (p : Param ν) : Bool :=
  p.decorators.any (·.isMarker ms.onParam)

/-- The parameter without its parameter markers. -/
def Param.stripMarkers (ms : Markers ν) (p : Param ν) : Param ν :=
  { p with decorators := Decorator.strip ms.onParam p.decorators }

end Promotion
