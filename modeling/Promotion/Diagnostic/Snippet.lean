import Promotion.Diagnostic.Basic
import Promotion.Text.Line
import Promotion.Text.Width
/-!
# Diagnostics shown in the source

A diagnostic is shown as a heading, the place it is about, the lines of the source around it with the stretch marked
beneath or beside them, and its notes.  Line numbers stand to the left of a border.  A stretch within one line is
underlined with carets; a longer one has a bar to the left of its lines, from the character where it starts to the one
where it ends, and of many lines in the middle only the first three and the last are shown.
-/
namespace Promotion

/-- A source file: its name, and the text that the positions of a span count into. -/
structure SourceFile where
  name : String
  text : String
deriving DecidableEq, Repr

namespace Snippet

open Text (Line byteLength spaces linesOf lineAt)

/-! ## A line of source -/

/-- Tabs reach to the next multiple of this column. -/
def tabWidth : Nat := 4

/-- A character of a line, with the position in the line where it begins and the columns that it takes up. -/
structure Cell where
  char : Char
  position : Nat
  width : Nat
deriving DecidableEq, Repr

def cells (position column : Nat) : List Char → List Cell
  | [] => []
  | c :: cs =>
    let width := if c = '\t' then tabWidth - column % tabWidth else Text.width c
    ⟨c, position, width⟩ :: cells (position + c.utf8Size) (column + width) cs

/-- The text of a line without what ends it. -/
def shownText (l : Line) : List Char :=
  (l.text.reverse.dropWhile fun c => c = '\n' || c = '\r' || c = '\x00').reverse

def shownCells (l : Line) : List Cell := cells 0 0 (shownText l)

/-- The text of a line with its tabs spelled out. -/
def lineText (l : Line) : String :=
  String.join ((shownCells l).map fun c => if c.char = '\t' then spaces c.width else c.char.toString)

/-- A mark, as often as it takes to fill the columns. -/
def fill (mark : Char) (width : Nat) : String := String.ofList (List.replicate width mark)

/-- Whether the bytes of a cell and those from `start` to before `stop` have one in common. -/
def Cell.overlaps (c : Cell) (start stop : Nat) : Bool :=
  c.position < stop && start < c.position + c.char.utf8Size

/-- The carets beneath the bytes from `start` to before `stop`.  There is room for one behind the text. -/
def carets (l : Line) (start stop : Nat) : String :=
  let behind : Cell := ⟨'\x00', byteLength (shownText l), 1⟩
  String.join ((shownCells l ++ [behind]).map fun c =>
    if c.overlaps start stop then fill '^' c.width
    else if c.position < stop then fill ' ' c.width
    else "")

/-- A rule beneath the characters of a line that begin before a position. -/
def rule (l : Line) (stop : Nat) : String :=
  String.join (((shownCells l).takeWhile (·.position < stop)).map fun c => fill '─' c.width)

/-- The bytes of the white space that a line starts with. -/
def indentation (l : Line) : Nat := byteLength ((shownText l).takeWhile Text.isBlank)

/-! ## The lines of a snippet -/

/-- The border without a line number; the width is that of the largest line number. -/
def border (width : Nat) (text : String) : String := spaces (width + 1) ++ "│" ++ text

/-- The border behind a line number. -/
def numbered (width : Nat) (l : Line) (text : String) : String :=
  let number := toString l.number
  spaces (width - number.length) ++ number ++ " │" ++ text

/-- A stretch within one line. -/
def singleLine (width : Nat) (l : Line) (start stop : Nat) (label : String) : List String :=
  [numbered width l (" " ++ lineText l),
   border width (" " ++ carets l (start - l.start) (max stop (start + 1) - l.start) ++ " " ++ label)]

/-- The first line of a longer stretch.  The bar begins beside the line if nothing but white space comes before the
stretch, and below it otherwise. -/
def firstLine (width : Nat) (l : Line) (start : Nat) : List String :=
  let offset := start - l.start
  if offset ≤ indentation l then [numbered width l (" ╭ " ++ lineText l)]
  else [numbered width l ("   " ++ lineText l), border width (" ╭" ++ rule l (offset + 1) ++ "^")]

/-- A line with the bar beside it. -/
def innerLine (width : Nat) (l : Line) : String := numbered width l (" │ " ++ lineText l)

/-- How many lines below the first are always shown. -/
def leadingLines : Nat := 3

/-- The lines between the first and the last.  Two or more that need not be shown are left out. -/
def innerLines (width : Nat) (ls : List Line) : List String :=
  if ls.length ≤ leadingLines + 2 then ls.map (innerLine width)
  else
    (ls.take leadingLines).map (innerLine width) ++ [spaces (width + 1) ++ "· │"] ++
      (ls.drop (ls.length - 1)).map (innerLine width)

/-- The last line of a longer stretch. -/
def lastLine (width : Nat) (l : Line) (stop : Nat) (label : String) : List String :=
  [innerLine width l, border width (" ╰" ++ rule l (stop - l.start) ++ "^ " ++ label)]

/-- The lines of a text: a carriage return before a line feed belongs to it, and behind a last line feed there is no
line. -/
def noteLines (note : String) : List String :=
  let pieces := Text.splitLines note.toList
  let ended := pieces.dropLast.map fun l => if l.getLast? = some '\r' then l.dropLast else l
  let last := pieces.drop (pieces.length - 1)
  (ended ++ last.filter (· ≠ [])).map String.ofList

/-- A note: its first line behind an equals sign, the others below. -/
def note (width : Nat) (text : String) : List String :=
  match noteLines text with
  | [] => []
  | l :: ls => (spaces (width + 1) ++ "= " ++ l) :: ls.map (spaces (width + 3) ++ ·)

end Snippet

open Snippet in
/-- The lines in which a diagnostic is shown, if it is about the given file. -/
def Diagnostic.shownLines (d : Diagnostic) (file : SourceFile) : List String :=
  let start := d.span.start.toNat
  let stop := d.span.stop.toNat
  let lines := Text.linesOf file.text
  let first := Text.lineAt lines start
  let last := Text.lineAt lines stop
  let width := (toString (max first.number last.number)).length
  let isSingle := first.index == last.index
  let blank := border width (if isSingle then "" else "  ")
  let snippet :=
    if isSingle then singleLine width first start stop d.label
    else
      firstLine width first start ++
        innerLines width ((lines.drop (first.index + 1)).take (last.index - first.index - 1)) ++
        lastLine width last stop d.label
  [d.severity.name ++ "[" ++ d.code ++ "]: " ++ d.message,
   Text.spaces (width + 1) ++ "┌─ " ++ file.name ++ ":" ++ toString first.number ++ ":" ++
     toString (first.column start),
   blank] ++ snippet ++ [blank] ++ d.notes.flatMap (note width) ++ [""]

/-- A diagnostic is about a file that is not known. -/
structure MissingFile where
  file : UInt64
deriving DecidableEq, Repr

def MissingFile.message (_ : MissingFile) : String := "file missing"

/-- A diagnostic as it is shown, where the files are known by their place in the list. -/
def Diagnostic.render (d : Diagnostic) (files : List SourceFile) : Except MissingFile String :=
  match files[d.file.toNat]? with
  | some file => .ok (String.join ((d.shownLines file).map (· ++ "\n")))
  | none => .error ⟨d.file⟩

end Promotion
