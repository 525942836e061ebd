/-!
# Lines of a text

Positions in a text count bytes.  A line starts at the beginning of the text and behind every line feed, and a position
belongs to the last line that starts at or before it, so also a position behind the end of the text has a line.
-/
namespace Promotion.Text

/-- The bytes that characters take up. -/
def byteLength : List Char → Nat
  | [] => 0
  | c :: cs => c.utf8Size + byteLength cs

/-- The characters that begin before the position. -/
def beforeByte : Nat → List Char → List Char
  | _, [] => []
  | 0, _ => []
  | n + 1, c :: cs => c :: beforeByte (n + 1 - c.utf8Size) cs

/-- A line: its number, counted from zero, the position where it starts, and its text without the line feed. -/
structure Line where
  index : Nat
  start : Nat
  text : List Char
deriving DecidableEq, Repr

/-- The text divided at its line feeds. -/
def splitLines : List Char → List (List Char)
  | [] => [[]]
  | '\n' :: cs => [] :: splitLines cs
  | c :: cs =>
    match splitLines cs with
    | [] => [[c]]
    | l :: ls => (c :: l) :: ls

/-- Lines in a row, the first with the given number and start. -/
def numberLines (index start : Nat) : List (List Char) → List Line
  | [] => []
  | l :: ls => ⟨index, start, l⟩ :: numberLines (index + 1) (start + byteLength l + 1) ls

def linesOf (text : String) : List Line := numberLines 0 0 (splitLines text.toList)

/-- The line that a position belongs to. -/
def lineAt (lines : List Line) (position : Nat) : Line :=
  (lines.takeWhile (·.start ≤ position)).getLastD ⟨0, 0, []⟩

/-- The number of a line as it is shown, counted from one. -/
def Line.number (l : Line) : Nat := l.index + 1

/-- The column of a position in its line, counted from one in characters. -/
def Line.column (l : Line) (position : Nat) : Nat := (beforeByte (position - l.start) l.text).length + 1

def spaces (n : Nat) : String := String.ofList (List.replicate n ' ')

end Promotion.Text
