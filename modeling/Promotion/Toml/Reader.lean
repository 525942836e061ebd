import Promotion.Text.Line
import Promotion.Toml.Quoted
/-!
# Reading documents

A document is read from left to right as a list of items, from which the table is then built.  A reader takes what it
reads off the front of the text and fails if it finds something else.  Where something stands is told by how many bytes
are left before and behind it, so readers that note ranges know the size of the whole text.

Arrays and inline tables nest at most `maxNesting` deep, and a dotted key has at most `maxNesting` parts.
-/
namespace Promotion.Toml

def maxNesting : Nat := 79

abbrev Reader := StateT (List Char) Option

namespace Reader

def peek : Reader (Option Char) := return (← get).head?

/-- Takes the character `c` if it comes next. -/
def eat (c : Char) : Reader Bool := do
  match ← get with
  | d :: cs => if d = c then do set cs; return true else return false
  | [] => return false

def expect (c : Char) : Reader Unit := do
  if ← eat c then return () else failure

def takeWhile (p : Char → Bool) : Reader (List Char) := modifyGet (·.span p)

/-- What `r` reads, and where it stands in a text of `size` bytes. -/
def ranged {α : Type} (size : Nat) (r : Reader α) : Reader (α × Range) := do
  let start := size - Text.byteLength (← get)
  let a ← r
  return (a, ⟨start, size - Text.byteLength (← get)⟩)

/-! ## Blanks, comments and line ends -/

def skipBlanks : Reader Unit := do
  let _ ← takeWhile fun c => c = ' ' || c = '\t'

/-- Takes a line break, `\n` or `\r\n`, if it comes next. -/
def eatBreak : Reader Bool := do
  match ← get with
  | '\n' :: cs => do set cs; return true
  | '\r' :: '\n' :: cs => do set cs; return true
  | _ => return false

/-- Takes a comment if one comes next. -/
def eatComment : Reader Bool := do
  if ← eat '#' then
    let _ ← takeWhile isText
    return true
  else return false

/-- The end of a line or of the text. -/
def lineEnd : Reader Unit := do
  if ← eatBreak then return ()
  else if (← get).isEmpty then return ()
  else failure

/-- What may follow on a line that holds an item. -/
def itemEnd : Reader Unit := do
  skipBlanks
  let _ ← eatComment
  lineEnd

/-- Blanks, line breaks and comments, a comment with its line break. -/
def skipTrivia : Nat → Reader Unit
  | 0 => return ()
  | n + 1 => do
    skipBlanks
    if ← eatBreak then skipTrivia n
    else if ← eatComment then
      if ← eatBreak then skipTrivia n else failure
    else return ()

/-! ## Keys -/

def isBareKeyChar (c : Char) : Bool := c.isAlphanum || c = '-' || c = '_'

def keyText : Reader String := do
  let c ← peek
  if c = some '"' || c = some '\'' then return String.ofList (← (lineString? : Reader (List Char)))
  else
    let name ← takeWhile isBareKeyChar
    if name.isEmpty then failure else return String.ofList name

/-- The parts of a key, divided by dots: those before the last, and the last. -/
def dottedKey (size : Nat) : Nat → Reader (List Key × Key)
  | 0 => failure
  | n + 1 => do
    skipBlanks
    let (name, range) ← ranged size keyText
    skipBlanks
    if ← eat '.' then
      let (path, last) ← dottedKey size n
      return (⟨name, range⟩ :: path, last)
    else return ([], ⟨name, range⟩)

def key (size : Nat) : Reader (List Key × Key) := dottedKey size maxNesting

/-! ## Values -/

/-- A scalar that is no string; a blank may divide a date from a time. -/
def bareScalar : Reader Scalar := do
  let cs ← takeWhile isBareChar
  match ← get with
  | ' ' :: rest =>
    let (time, rest) := rest.span isBareChar
    if isDate cs && isZonedTime time then do
      set rest
      return .datetime
    else Scalar.ofBare? cs
  | _ => Scalar.ofBare? cs

def scalar : Reader Scalar := do
  let c ← peek
  if c = some '"' || c = some '\'' then return .string (String.ofList (← (string? : Reader (List Char))))
  else bareScalar

/-- The items of an array and its closing bracket; a comma may follow the last item. -/
def arrayItems (value : Reader Node) : Nat → Reader (List Node)
  | 0 => failure
  | n + 1 => do
    skipTrivia (← get).length
    if ← eat ']' then return []
    else
      let v ← value
      skipTrivia (← get).length
      if ← eat ',' then return v :: (← arrayItems value n)
      else
        expect ']'
        return [v]

/-- The entries of an inline table and its closing brace; no comma may follow the last entry. -/
def inlineEntries (size : Nat) (value : Reader Node) : Nat → Table → Reader Table
  | 0, _ => failure
  | n + 1, t => do
    let (path, last) ← key size
    expect '='
    skipBlanks
    let t ← t.insert path last (← value)
    skipBlanks
    if ← eat ',' then inlineEntries size value n t
    else
      expect '}'
      return t

/-- A value, with arrays and inline tables at most so deep. -/
def value (size : Nat) : Nat → Reader Node
  | 0 => do
    let (s, range) ← ranged size scalar
    return .scalar s range
  | depth + 1 => do
    match ← peek with
    | some '[' =>
      let (items, range) ← ranged size do
        expect '['
        arrayItems (value size depth) ((← get).length + 1)
      return .array items range
    | some '{' =>
      let (t, range) ← ranged size do
        expect '{'
        skipBlanks
        if ← eat '}' then return ⟨.inline, [], none⟩
        else inlineEntries size (value size depth) (← get).length ⟨.inline, [], none⟩
      return .table { t with range := some range }
    | _ => do
      let (s, range) ← ranged size scalar
      return .scalar s range

/-! ## Items -/

/-- A header in one pair of brackets opens a table, one in two adds a table to an array of tables. -/
def header (size : Nat) : Reader Item := do
  let ((isElement, path, last), range) ← ranged size do
    expect '['
    let isElement ← eat '['
    let (path, last) ← key size
    expect ']'
    if isElement then expect ']'
    return (isElement, path, last)
  return if isElement then .element path last range else .header path last range

def keyValue (size : Nat) : Reader Item := do
  let (path, last) ← key size
  expect '='
  skipBlanks
  return .value path last (← value size maxNesting)

def items (size : Nat) : Nat → Reader (List Item)
  | 0 => failure
  | n + 1 => do
    skipBlanks
    match ← peek with
    | none => return []
    | some c =>
      if ← eatBreak then items size n
      else if ← eatComment then
        lineEnd
        items size n
      else
        let item ← if c = '[' then header size else keyValue size
        itemEnd
        return item :: (← items size n)

end Reader

/-- The root table of a text; a byte order mark may stand in front. -/
def Table.read? (text : String) : Option Table := do
  let cs := text.toList
  let body := if cs.head? = some '\ufeff' then cs.drop 1 else cs
  let (items, _) ← (Reader.items (Text.byteLength cs) (body.length + 1)).run body
  Table.ofItems items

end Promotion.Toml
