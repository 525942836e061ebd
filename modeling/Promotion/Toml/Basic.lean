/-!
# TOML documents

The tree of a TOML document: tables in the order of their entries, arrays and scalars, each with the bytes of the text
that it was read from.  A table remembers how it came about, because that decides whether it may still be extended:

- a table under a `[header]` may not be opened by another header or extended by dotted keys;
- a table that a header only passes through (`implied`) may get a header of its own later;
- a table made by a dotted key may be extended by dotted keys in the same section;
- an inline table is closed.

Implied and dotted tables stand nowhere in the text, so they have no range.
-/
namespace Promotion.Toml

/-- A stretch of the text, in bytes. -/
structure Range where
  start : Nat
  stop : Nat
deriving DecidableEq, Repr

structure Key where
  name : String
  range : Range
deriving DecidableEq, Repr

/-- A decimal number `± digits · 10 ^ exponent`. -/
structure Decimal where
  isNegative : Bool
  digits : Nat
  exponent : Int
deriving DecidableEq, Repr

inductive FloatValue where
  | finite (value : Decimal)
  | infinite (isNegative : Bool)
  | nan
deriving DecidableEq, Repr

/-- Dates and times are recognised, their value is not kept. -/
inductive Scalar where
  | string (value : String)
  | integer (value : Int)
  | float (value : FloatValue)
  | boolean (value : Bool)
  | datetime
deriving DecidableEq, Repr

inductive TableKind where
  | header | implied | dotted | inline
deriving DecidableEq, Repr

mutual

inductive Node where
  | scalar (value : Scalar) (range : Range)
  | array (items : List Node) (range : Range)
  | table (table : Table)
  /-- An array of tables, one for each `[[header]]`. -/
  | tables (items : List Table)

structure Table where
  kind : TableKind
  entries : List Entry
  range : Option Range

structure Entry where
  key : Key
  value : Node

end

/-- Where a node stands; an array of tables stands from its first table to its last. -/
def Node.range? : Node → Option Range
  | .scalar _ r => some r
  | .array _ r => some r
  | .table t => t.range
  | .tables ts => do return ⟨(← (← ts.head?).range).start, (← (← ts.getLast?).range).stop⟩

namespace Table

def find? (t : Table) (name : String) : Option Entry := t.entries.find? (·.key.name = name)

/-- Adds an entry behind the others. -/
def push (t : Table) (key : Key) (value : Node) : Table := { t with entries := t.entries ++ [⟨key, value⟩] }

/-- Replaces the value of an entry where it stands. -/
def set (t : Table) (name : String) (value : Node) : Table :=
  { t with entries := t.entries.map fun e => if e.key.name = name then { e with value } else e }

def erase (t : Table) (name : String) : Table := { t with entries := t.entries.filter (·.key.name ≠ name) }

/-- Changes the table that a path leads to.  Missing tables on the way are added as `missing` ones, an array of tables
is entered at its last one, and dotted keys do not lead into tables with a header. -/
def alter (missing : TableKind) (f : Table → Option Table) : List Key → Table → Option Table
  | [], t => f t
  | k :: ks, t =>
    match t.find? k.name with
    | none => do return t.push k (.table (← alter missing f ks ⟨missing, [], none⟩))
    | some ⟨_, .table c⟩ =>
      if c.kind = .inline || (c.kind = .header && missing = .dotted) then none
      else do return t.set k.name (.table (← alter missing f ks c))
    | some ⟨_, .tables cs⟩ => do
      let c ← alter missing f ks (← cs.getLast?)
      return t.set k.name (.tables (cs.dropLast ++ [c]))
    | some _ => none

/-- Adds a value under a key, dotted if `path` is not empty.  A dotted key goes only to tables made by dotted keys, and
a plain one only to others. -/
def insert (path : List Key) (key : Key) (value : Node) (t : Table) : Option Table :=
  t.alter .dotted (fun c =>
    if (c.kind == .dotted) == path.isEmpty || (c.find? key.name).isSome then none else some (c.push key value)) path

/-- Opens the table of a header.  A table that was only implied moves behind the other entries. -/
def openHeader (path : List Key) (key : Key) (range : Range) (t : Table) : Option Table :=
  t.alter .implied (fun c =>
    match c.find? key.name with
    | none => some (c.push key (.table ⟨.header, [], some range⟩))
    | some ⟨_, .table d⟩ =>
      if d.kind = .implied then
        some ((c.erase key.name).push key (.table { d with kind := .header, range := some range }))
      else none
    | some _ => none) path

/-- Adds a table to an array of tables. -/
def openElement (path : List Key) (key : Key) (range : Range) (t : Table) : Option Table :=
  t.alter .implied (fun c =>
    match c.find? key.name with
    | none => some (c.push key (.tables [⟨.header, [], some range⟩]))
    | some ⟨_, .tables ds⟩ => some (c.set key.name (.tables (ds ++ [⟨.header, [], some range⟩])))
    | some _ => none) path

/-- Adds a value in the section that `section_` leads to; the section now reaches to the end of the value. -/
def insertIn (section_ path : List Key) (key : Key) (value : Node) (t : Table) : Option Table :=
  t.alter .implied (fun c => do
    let range := match c.range, value.range? with
      | some r, some v => some ⟨r.start, v.stop⟩
      | r, _ => r
    ({ c with range } : Table).insert path key value) section_

end Table

/-- A document is a list of items: headers, and values under the header before them. -/
inductive Item where
  | header (path : List Key) (key : Key) (range : Range)
  | element (path : List Key) (key : Key) (range : Range)
  | value (path : List Key) (key : Key) (value : Node)

/-- Reads the items in order: the section that values go to, and the root table. -/
def Item.apply : List Key × Table → Item → Option (List Key × Table)
  | (_, t), .header path key range => do return (path ++ [key], ← t.openHeader path key range)
  | (_, t), .element path key range => do return (path ++ [key], ← t.openElement path key range)
  | (section_, t), .value path key node => do return (section_, ← t.insertIn section_ path key node)

/-- The root table of a document; `none` if a key is given twice or a table is extended that may not be. -/
def Table.ofItems (items : List Item) : Option Table := do
  return (← items.foldlM Item.apply ([], ⟨.header, [], none⟩)).2

end Promotion.Toml
