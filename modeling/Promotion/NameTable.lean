import Std.Data.HashMap
/-!
# Names and their symbols

A `NameTable` numbers the distinct names of a program 1, 2, 3, … in the order in which they are first interned, and a
`Symbol` is such a number.  The table holds both directions, names by number and numbers by name, and the two agree by
construction: `numbers_eq` is a field, kept by `intern`.

Numbers are 32-bit and never zero, so a table holds at most 2³² − 1 names.  Interning one more name fails and changes
nothing; it never reuses a number.
-/
namespace Promotion

/-- The number of a name: the first name interned has number 1. -/
structure Symbol where
  number : UInt32
  number_pos : 0 < number
deriving DecidableEq

namespace Symbol

instance : Inhabited Symbol := ⟨⟨1, by decide⟩⟩

/-- The place of the name in the list of names, counted from zero. -/
def index (y : Symbol) : Nat := y.number.toNat - 1

theorem index_add_one (y : Symbol) : y.index + 1 = y.number.toNat := by
  have h : 0 < y.number.toNat := by simpa [UInt32.lt_iff_toNat_lt] using y.number_pos
  simp only [index]
  omega

theorem index_inj {x y : Symbol} : x.index = y.index ↔ x = y := by
  constructor
  · intro h
    have hn : x.number.toNat = y.number.toNat := by rw [← index_add_one x, ← index_add_one y, h]
    cases x
    cases y
    simpa using UInt32.toNat_inj.1 hn
  · rintro rfl
    rfl

end Symbol

/-- Names by number and numbers by name. -/
structure NameTable where
  names : Array String
  numbers : Std.HashMap String Symbol
  /-- A name has the number of the place where it stands, and no other. -/
  numbers_eq : ∀ (s : String) (y : Symbol), numbers[s]? = some y ↔ names[y.index]? = some s
  size_lt : names.size < UInt32.size

/-- A symbol that a table does not know: its place, and how many names there are. -/
structure UnknownSymbol where
  size : Nat
  index : Nat
deriving DecidableEq, Repr

def UnknownSymbol.message (e : UnknownSymbol) : String :=
  "index out of bounds: the len is " ++ toString e.size ++ " but the index is " ++ toString e.index

namespace NameTable

def empty : NameTable where
  names := #[]
  numbers := ∅
  numbers_eq := by simp
  size_lt := by decide

instance : Inhabited NameTable := ⟨empty⟩

def size (t : NameTable) : Nat := t.names.size

def isEmpty (t : NameTable) : Bool := t.names.isEmpty

/-- The number of a name, if it has been interned. -/
def find? (t : NameTable) (s : String) : Option Symbol := t.numbers[s]?

/-- The name that a symbol stands for. -/
def resolve (t : NameTable) (y : Symbol) : Except UnknownSymbol String :=
  match t.names[y.index]? with
  | some s => .ok s
  | none => .error ⟨t.size, y.index⟩

/-- The number that the next new name gets: the count of names, cut to 32 bits, plus one.  Zero in a full table. -/
def nextNumber (t : NameTable) : UInt32 := t.names.size.toUInt32 + 1

theorem toNat_nextNumber (t : NameTable) (h : 0 < t.nextNumber) : t.nextNumber.toNat = t.names.size + 1 := by
  have hs : t.names.size < 4294967296 := t.size_lt
  have hp : 0 < t.nextNumber.toNat := by simpa [UInt32.lt_iff_toNat_lt] using h
  have he : t.nextNumber.toNat = (t.names.size + 1) % 4294967296 := by
    simp [nextNumber, UInt32.toNat_add]
  rw [he] at hp ⊢
  omega

/-- Adds a new name under the next number. -/
def push (t : NameTable) (s : String) (hs : t.find? s = none) (h : 0 < t.nextNumber) : NameTable where
  names := t.names.push s
  numbers := t.numbers.insert s ⟨t.nextNumber, h⟩
  numbers_eq := by
    intro r y
    have hi : (⟨t.nextNumber, h⟩ : Symbol).index = t.names.size := by
      simp [Symbol.index, t.toNat_nextNumber h]
    have hs' : ∀ z : Symbol, t.names[z.index]? ≠ some s := by
      intro z hz
      have := (t.numbers_eq s z).2 hz
      simp [find?] at hs
      simp [hs] at this
    rw [Std.HashMap.getElem?_insert, Array.getElem?_push]
    by_cases hr : s = r
    · subst hr
      by_cases hy : y.index = t.names.size
      · obtain rfl : y = ⟨t.nextNumber, h⟩ := Symbol.index_inj.1 (hy.trans hi.symm)
        simp [hi]
      · simp [hy, hs']
        rintro rfl
        exact hy hi
    · by_cases hy : y.index = t.names.size
      · simp only [beq_iff_eq, hr, if_false, hy, if_true, Option.some.injEq, iff_false]
        rw [t.numbers_eq, hy]
        simp
      · simp [hr, hy, t.numbers_eq]
  size_lt := by
    have := t.toNat_nextNumber h
    have := t.nextNumber.toNat_lt_size
    simp only [Array.size_push]
    omega

/-- The symbol of a name, which is added if it is new; `none` if it is new and the table is full. -/
def intern (t : NameTable) (s : String) : Option (Symbol × NameTable) :=
  match hs : t.find? s with
  | some y => some (y, t)
  | none => if h : 0 < t.nextNumber then some (⟨t.nextNumber, h⟩, t.push s hs h) else none

/-- Interns several names in order. -/
def internAll (t : NameTable) : List String → Option NameTable
  | [] => some t
  | s :: ss => do (← t.intern s).2.internAll ss

end NameTable

end Promotion
