import Promotion.Diagnostic.Basic
import Promotion.Json.Reader
import Promotion.Json.Value
/-!
# Diagnostics as JSON

A diagnostic is handed to editors as a record of eight fields, written as a JSON object.  Reading takes the object with
its fields in any order and skips fields it does not know, or an array of the eight values.
-/
namespace Promotion

structure Record where
  code : String
  severity : String
  message : String
  start : UInt64
  stop : UInt64
  line : UInt32
  column : UInt32
  notes : List String
deriving DecidableEq, Repr

def Diagnostic.record (d : Diagnostic) : Record where
  code := d.code
  severity := d.severity.name
  message := d.message
  start := d.span.start
  stop := d.span.stop
  line := d.span.line
  column := d.span.column
  notes := d.notes

namespace Record

/-- The names of the fields, in order. -/
inductive Field where
  | code | severity | message | start | stop | line | column | notes
deriving DecidableEq, Repr

namespace Field

def all : List Field := [code, severity, message, start, stop, line, column, notes]

def name : Field → String
  | code => "code"
  | severity => "severity"
  | message => "message"
  | start => "start"
  | stop => "end"
  | line => "line"
  | column => "column"
  | notes => "notes"

def ofName? (name : List Char) : Option Field := all.find? fun f => f.name.toList = name

end Field

def value (r : Record) : Field → Json.Value
  | .code => .string r.code.toList
  | .severity => .string r.severity.toList
  | .message => .string r.message.toList
  | .start => .number r.start.toNat
  | .stop => .number r.stop.toNat
  | .line => .number r.line.toNat
  | .column => .number r.column.toNat
  | .notes => .array (r.notes.map fun n => .string n.toList)

def toJson (r : Record) : Json.Value := .object (Field.all.map fun f => (f.name.toList, r.value f))

/-- The text of a record. -/
def text (r : Record) : String := r.toJson.text

/-! ## Reading -/

/-- A record of which some fields have been read. -/
structure Gathered where
  code : Option String := none
  severity : Option String := none
  message : Option String := none
  start : Option UInt64 := none
  stop : Option UInt64 := none
  line : Option UInt32 := none
  column : Option UInt32 := none
  notes : Option (List String) := none

namespace Gathered

def has (p : Gathered) : Field → Bool
  | .code => p.code.isSome
  | .severity => p.severity.isSome
  | .message => p.message.isSome
  | .start => p.start.isSome
  | .stop => p.stop.isSome
  | .line => p.line.isSome
  | .column => p.column.isSome
  | .notes => p.notes.isSome

/-- The whole record, if no field is missing. -/
def complete? (p : Gathered) : Option Record := do
  return ⟨← p.code, ← p.severity, ← p.message, ← p.start, ← p.stop, ← p.line, ← p.column, ← p.notes⟩

open Json.Reader in
/-- Reads the value of a field. -/
def readField (p : Gathered) : Field → Json.Reader Gathered
  | .code => do return { p with code := some (← Json.Reader.text) }
  | .severity => do return { p with severity := some (← Json.Reader.text) }
  | .message => do return { p with message := some (← Json.Reader.text) }
  | .start => do return { p with start := some (← natBelow UInt64.size).toUInt64 }
  | .stop => do return { p with stop := some (← natBelow UInt64.size).toUInt64 }
  | .line => do return { p with line := some (← natBelow UInt32.size).toUInt32 }
  | .column => do return { p with column := some (← natBelow UInt32.size).toUInt32 }
  | .notes => do return { p with notes := some (← texts) }

open Json.Reader in
/-- Reads the fields of an object behind its opening brace, at most so many. -/
def readFields (isFirst : Bool) (p : Gathered) : Nat → Json.Reader Gathered
  | 0 => return p
  | n + 1 => do
    match ← fieldKey isFirst with
    | none => return p
    | some key =>
      match Field.ofName? key with
      | none =>
        colon
        skipValue (2 * (← get).length + 1)
        readFields false p n
      | some f =>
        if p.has f then throw .mismatched
        else
          colon
          readFields false (← p.readField f) n

open Json.Reader in
/-- Reads the fields as the items of an array. -/
def readItems (isFirst : Bool) (p : Gathered) : List Field → Json.Reader Gathered
  | [] => return p
  | f :: fs => do
    if ← hasItem isFirst then readItems false (← p.readField f) fs else throw .mismatched

end Gathered

open Json.Reader in
def reader : Json.Reader Record := do
  let c ← next
  if c = '[' then
    skip
    let p ← Gathered.readItems true {} Field.all
    arrayEnd
    complete p
  else if c = '\x7b' then
    skip
    let p ← Gathered.readFields true {} ((← get).length + 1)
    let r ← complete p
    skip
    return r
  else mismatch
where
  complete (p : Gathered) : Json.Reader Record :=
    match p.complete? with
    | some r => return r
    | none => throw .mismatched

/-- The record that a text holds. -/
def read (text : String) : Except Json.Problem Record := do
  let (r, rest) ← reader text.toList
  let _ ← Json.Reader.done rest
  return r

end Record

end Promotion
