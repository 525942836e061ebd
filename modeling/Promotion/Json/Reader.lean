import Promotion.Text.Line
/-!
# Reading JSON

Readers for JSON whose shape is known beforehand.  A reader takes what it reads off the front of the text, and stops at
the first problem, which is one of three kinds: the text ends too early, it is no JSON, or it is JSON of another shape
than the reader looks for.  A value of another shape is still read as far as needed to know that it is one: a scalar to
its end, an array or object not at all.

Values that nobody looks for are skipped.  Skipping asks less: a number may be as large as it likes, and the escapes of
a string need not make up characters.
-/
namespace Promotion.Json

inductive Problem where
  /-- The text ends too early. -/
  | ended
  /-- The text is no JSON. -/
  | malformed
  /-- The text is no JSON of the shape looked for. -/
  | mismatched
deriving DecidableEq, Repr

abbrev Reader := StateT (List Char) (Except Problem)

/-! ## Strings -/

def hexValue? (c : Char) : Option Nat :=
  if c.isDigit then some (c.toNat - '0'.toNat)
  else if 'a' ≤ c && c ≤ 'f' then some (c.toNat - 'a'.toNat + 10)
  else if 'A' ≤ c && c ≤ 'F' then some (c.toNat - 'A'.toNat + 10)
  else none

def hexCode? (a b c d : Char) : Option Nat := do
  return (((← hexValue? a) * 16 + (← hexValue? b)) * 16 + (← hexValue? c)) * 16 + (← hexValue? d)

def isHighSurrogate (n : Nat) : Bool := 0xD800 ≤ n && n ≤ 0xDBFF

def isLowSurrogate (n : Nat) : Bool := 0xDC00 ≤ n && n ≤ 0xDFFF

/-- The character outside the first plane that two surrogates make up. -/
def surrogatePair (high low : Nat) : Char := Char.ofNat ((high - 0xD800) * 0x400 + (low - 0xDC00) + 0x10000)

/-- The character of an escape of one letter. -/
def unescaped? : Char → Option Char
  | '"' => some '"'
  | '\\' => some '\\'
  | '/' => some '/'
  | 'b' => some '\x08'
  | 'f' => some '\x0c'
  | 'n' => some '\n'
  | 'r' => some '\r'
  | 't' => some '\t'
  | _ => none

/-- What is wrong where four digits of a code should be and are not: a code takes four bytes. -/
def codeProblem (cs : List Char) : Problem := if Text.byteLength cs < 4 then .ended else .malformed

/-- What is wrong where the escape of a low surrogate should be and is not. -/
def lowSurrogateProblem : List Char → Problem
  | [] => .ended
  | ['\\'] => .ended
  | '\\' :: 'u' :: cs => codeProblem cs
  | _ => .malformed

/-- A string behind its opening quote: the text, and what follows the closing quote. -/
def stringBody : List Char → Except Problem (List Char × List Char)
  | [] => .error .ended
  | '"' :: cs => .ok ([], cs)
  | ['\\'] => .error .ended
  | '\\' :: 'u' :: a :: b :: c :: d :: cs =>
    match hexCode? a b c d with
    | none => .error .malformed
    | some n =>
      if isHighSurrogate n then
        match cs with
        | '\\' :: 'u' :: e :: f :: g :: h :: cs =>
          match hexCode? e f g h with
          | none => .error .malformed
          | some m =>
            if isLowSurrogate m then do
              let (text, rest) ← stringBody cs
              return (surrogatePair n m :: text, rest)
            else .error .malformed
        | cs => .error (lowSurrogateProblem cs)
      else if isLowSurrogate n then .error .malformed
      else do
        let (text, rest) ← stringBody cs
        return (Char.ofNat n :: text, rest)
  | '\\' :: 'u' :: cs => .error (codeProblem cs)
  | '\\' :: x :: cs =>
    match unescaped? x with
    | none => .error .malformed
    | some c => do
      let (text, rest) ← stringBody cs
      return (c :: text, rest)
  | c :: cs =>
    if c.toNat < 0x20 then .error .malformed
    else do
      let (text, rest) ← stringBody cs
      return (c :: text, rest)

/-- What follows a string that is skipped. -/
def skippedString : List Char → Except Problem (List Char)
  | [] => .error .ended
  | '"' :: cs => .ok cs
  | ['\\'] => .error .ended
  | '\\' :: 'u' :: a :: b :: c :: d :: cs => if (hexCode? a b c d).isNone then .error .malformed else skippedString cs
  | '\\' :: 'u' :: cs => .error (codeProblem cs)
  | '\\' :: x :: cs => if (unescaped? x).isNone then .error .malformed else skippedString cs
  | c :: cs => if c.toNat < 0x20 then .error .malformed else skippedString cs

/-! ## Numbers -/

/-- A number, as far as it matters: natural numbers of 64 bits are kept. -/
inductive Number where
  | natural (value : Nat)
  | other
deriving DecidableEq, Repr

/-- Adds digits to a number as long as it keeps 64 bits: the number, and the digits left over. -/
def takeDigits (n : Nat) : List Char → Nat × List Char
  | [] => (n, [])
  | c :: cs =>
    let m := n * 10 + (c.toNat - '0'.toNat)
    if m < UInt64.size then takeDigits m cs else (n, c :: cs)

/-- Whether `n · 10 ^ exponent` is too large for double precision. -/
def isTooLarge (n : Nat) (exponent : Int) : Bool :=
  n ≠ 0 && 0 ≤ exponent &&
    (308 < exponent || (Float.ofNat n * Float.ofScientific 1 false exponent.toNat).isInf)

namespace Reader

def isBlank (c : Char) : Bool := c = ' ' || c = '\n' || c = '\t' || c = '\r'

def skipBlanks : Reader Unit := modify (·.dropWhile isBlank)

def peek : Reader (Option Char) := return (← get).head?

/-- Takes one character off. -/
def skip : Reader Unit := modify (·.drop 1)

/-- The next character that is not blank, which stays; the text must not end here. -/
def next : Reader Char := do
  skipBlanks
  match ← peek with
  | some c => return c
  | none => throw .ended

/-- The end of the text has to be here. -/
def done : Reader Unit := do
  skipBlanks
  if (← peek).isSome then throw .malformed

/-- The letters of a word. -/
def word : List Char → Reader Unit
  | [] => return ()
  | w :: ws => do
    match ← peek with
    | none => throw .ended
    | some c =>
      if c = w then do
        skip
        word ws
      else throw .malformed

def takeWhile (p : Char → Bool) : Reader (List Char) := modifyGet (·.span p)

/-- Digits, of which there has to be one. -/
def digits : Reader (List Char) := do
  let ds ← takeWhile Char.isDigit
  if ds.isEmpty then
    if (← peek).isNone then throw .ended else throw .malformed
  else return ds

/-- The digits before the point; a zero stands alone. -/
def wholeDigits : Reader (List Char) := do
  let ds ← digits
  if 1 < ds.length && ds.head? = some '0' then throw .malformed else return ds

/-- The exponent of a number `n · 10 ^ start`, behind its letter; an exponent that makes the number too large is
refused. -/
def exponent (n : Nat) (start : Int) : Reader Unit := do
  skip
  let sign ← peek
  if sign = some '+' || sign = some '-' then skip
  let (e, excess) := (← digits).foldl (fun (e, excess) c =>
    let e' := e * 10 + (c.toNat - '0'.toNat)
    if excess || 0x80000000 ≤ e' then (e, true) else (e', false)) (0, false)
  let isTooLarge := match sign == some '-', excess with
    | true, true => false
    | true, false => isTooLarge n (start - e)
    | false, true => n ≠ 0
    | false, false => isTooLarge n (start + e)
  if isTooLarge then throw .malformed

/-- The fraction and the exponent of a number `n · 10 ^ start`, as far as they are there. -/
def fraction (n : Nat) (start : Int) : Reader Number := do
  match ← peek with
  | some '.' =>
    skip
    let ds ← digits
    let (n, excess) := takeDigits n ds
    let start := start - (ds.length - excess.length : Nat)
    match ← peek with
    | some 'e' | some 'E' => exponent n start
    | _ => if isTooLarge n start then throw .malformed
    return .other
  | some 'e' | some 'E' =>
    exponent n start
    return .other
  | _ => if start = 0 then return .natural n else if isTooLarge n start then throw .malformed else return .other

def number : Reader Number := do
  let isNegative := (← peek) = some '-'
  if isNegative then skip
  let (n, excess) := takeDigits 0 (← wholeDigits)
  let r ← fraction n excess.length
  return if isNegative then .other else r

def string : Reader (List Char) := do
  skip
  (stringBody : Reader (List Char))

/-- Refuses a value because of its shape, unless there is another problem with it first. -/
def mismatch {α : Type} : Reader α := do
  match ← peek with
  | some 'n' => word "null".toList
  | some 't' => word "true".toList
  | some 'f' => word "false".toList
  | some '"' => let _ ← string
  | some '[' | some '\x7b' => pure ()
  | some c => if c = '-' || c.isDigit then let _ ← number else throw .malformed
  | none => throw .ended
  throw .mismatched

/-! ## Values of a known shape -/

def text : Reader String := do
  if (← next) = '"' then return String.ofList (← string) else mismatch

/-- A natural number below a bound. -/
def natBelow (bound : Nat) : Reader Nat := do
  let c ← next
  if c = '-' || c.isDigit then
    match ← number with
    | .natural n => if n < bound then return n else throw .mismatched
    | .other => throw .mismatched
  else mismatch

/-- Whether another item of an array follows; the comma before it is taken off, and a closing bracket stays. -/
def hasItem (isFirst : Bool) : Reader Bool := do
  let c ← next
  if c = ']' then return false
  else if isFirst then return true
  else if c = ',' then
    skip
    if (← next) = ']' then throw .malformed else return true
  else throw .malformed

/-- The end of an array whose items are all read. -/
def arrayEnd : Reader Unit := do
  if (← next) = ']' then skip else throw .malformed

/-- The items of an array behind its opening bracket, at most so many. -/
def items {α : Type} (item : Reader α) (isFirst : Bool) : Nat → Reader (List α)
  | 0 => return []
  | n + 1 => do
    if ← hasItem isFirst then return (← item) :: (← items item false n) else return []

def texts : Reader (List String) := do
  if (← next) = '[' then
    skip
    let ts ← items text true ((← get).length + 1)
    arrayEnd
    return ts
  else mismatch

/-- The key of the next field of an object; the comma before it is taken off, and a closing brace stays. -/
def fieldKey (isFirst : Bool) : Reader (Option (List Char)) := do
  let c ← next
  if c = '\x7d' then return none
  else if !isFirst && c ≠ ',' then throw .malformed
  else
    if !isFirst then skip
    if (← next) = '"' then return some (← string) else throw .malformed

/-- The colon between a key and its value. -/
def colon : Reader Unit := do
  if (← next) = ':' then skip else throw .malformed

/-! ## Skipping -/

def skipDigits : Reader Unit := do
  if (← takeWhile Char.isDigit).isEmpty then throw .malformed

def skipNumber : Reader Unit := do
  if (← peek) = some '-' then skip
  let ds ← takeWhile Char.isDigit
  if ds.isEmpty || (1 < ds.length && ds.head? = some '0') then throw .malformed
  if (← peek) = some '.' then
    skip
    skipDigits
  let e ← peek
  if e = some 'e' || e = some 'E' then
    skip
    let sign ← peek
    if sign = some '+' || sign = some '-' then skip
    skipDigits

def skipString : Reader Unit := do
  skip
  set (← skippedString (← get))

/-- Skips the key of a field and its colon. -/
def skipKey : Reader Unit := do
  if (← next) = '"' then skipString else throw .malformed
  colon

mutual

/-- Skips a value; the number bounds how many values and brackets are skipped in a row. -/
def skipValue : Nat → Reader Unit
  | 0 => throw .ended
  | n + 1 => do
    match ← next with
    | 'n' => word "null".toList
    | 't' => word "true".toList
    | 'f' => word "false".toList
    | '"' => skipString
    | '[' =>
      skip
      if (← next) = ']' then skip else skipItems n
    | '\x7b' =>
      skip
      if (← next) = '\x7d' then skip
      else
        skipKey
        skipFields n
    | c => if c = '-' || c.isDigit then skipNumber else throw .malformed

/-- Skips an item of an array and all that follow it, with the closing bracket. -/
def skipItems : Nat → Reader Unit
  | 0 => throw .ended
  | n + 1 => do
    skipValue n
    match ← next with
    | ',' =>
      skip
      skipItems n
    | ']' => skip
    | _ => throw .malformed

/-- Skips the value of a field and all fields that follow it, with the closing brace. -/
def skipFields : Nat → Reader Unit
  | 0 => throw .ended
  | n + 1 => do
    skipValue n
    match ← next with
    | ',' =>
      skip
      skipKey
      skipFields n
    | '\x7d' => skip
    | _ => throw .malformed

end

end Reader

end Promotion.Json
