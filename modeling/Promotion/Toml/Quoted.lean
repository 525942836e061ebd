import Promotion.Toml.Scalar
/-!
# Strings

The four ways of quoting a string.  Each reader starts behind the opening quotes and gives the text and what follows the
closing quotes.  Basic strings (`"`) have escapes, literal strings (`'`) have none; the forms with three quotes may span
lines, drop a line break directly behind the opening quotes, and may end in up to two quotes of their own.
-/
namespace Promotion.Toml

/-- The characters that stand for themselves in strings and comments: all but control characters, the tab apart. -/
def isText (c : Char) : Bool := c = '\t' || (' ' ≤ c && c ≤ '~') || '\x80' ≤ c

/-- The character with a code given in hexadecimal. -/
def charOfHex? (ds : List Char) : Option Char :=
  let n := natOfDigits 16 ds
  if ds.all (isDigitIn 16) && n.isValidChar then some (Char.ofNat n) else none

/-- The character that an escape of one letter stands for. -/
def escaped? : Char → Option Char
  | 'b' => some '\x08'
  | 't' => some '\t'
  | 'n' => some '\n'
  | 'f' => some '\x0c'
  | 'r' => some '\r'
  | '"' => some '"'
  | '\\' => some '\\'
  | _ => none

/-- A string in double quotes. -/
def basic? : List Char → Option (List Char × List Char)
  | [] => none
  | '"' :: cs => some ([], cs)
  | '\\' :: 'u' :: a :: b :: c :: d :: cs => do
    let (text, rest) ← basic? cs
    return ((← charOfHex? [a, b, c, d]) :: text, rest)
  | '\\' :: 'U' :: a :: b :: c :: d :: e :: f :: g :: h :: cs => do
    let (text, rest) ← basic? cs
    return ((← charOfHex? [a, b, c, d, e, f, g, h]) :: text, rest)
  | '\\' :: x :: cs => do
    let (text, rest) ← basic? cs
    return ((← escaped? x) :: text, rest)
  | c :: cs => do
    let (text, rest) ← basic? cs
    if isText c && c ≠ '\\' then return (c :: text, rest) else none

/-- A string in single quotes. -/
def literal? : List Char → Option (List Char × List Char)
  | [] => none
  | '\'' :: cs => some ([], cs)
  | c :: cs => do
    let (text, rest) ← literal? cs
    if isText c then return (c :: text, rest) else none

/-- Where the reader of a string over lines is: in the text, between a backslash and the line break that it joins, or
in the blanks and breaks that follow. -/
inductive Joint where
  | text | opening | joining

/-- A string in three double quotes. -/
def multilineBasic? : Joint → List Char → Option (List Char × List Char)
  | _, [] => none
  | .opening, '\n' :: cs => multilineBasic? .joining cs
  | .opening, '\r' :: '\n' :: cs => multilineBasic? .joining cs
  | .opening, c :: cs => if c = ' ' || c = '\t' then multilineBasic? .opening cs else none
  | .joining, '\n' :: cs => multilineBasic? .joining cs
  | .joining, '\r' :: '\n' :: cs => multilineBasic? .joining cs
  | .joining, ' ' :: cs => multilineBasic? .joining cs
  | .joining, '\t' :: cs => multilineBasic? .joining cs
  | _, '"' :: '"' :: '"' :: '"' :: '"' :: cs => some (['"', '"'], cs)
  | _, '"' :: '"' :: '"' :: '"' :: cs => some (['"'], cs)
  | _, '"' :: '"' :: '"' :: cs => some ([], cs)
  | _, '\\' :: 'u' :: a :: b :: c :: d :: cs => do
    let (text, rest) ← multilineBasic? .text cs
    return ((← charOfHex? [a, b, c, d]) :: text, rest)
  | _, '\\' :: 'U' :: a :: b :: c :: d :: e :: f :: g :: h :: cs => do
    let (text, rest) ← multilineBasic? .text cs
    return ((← charOfHex? [a, b, c, d, e, f, g, h]) :: text, rest)
  | _, '\\' :: '\n' :: cs => multilineBasic? .joining cs
  | _, '\\' :: '\r' :: '\n' :: cs => multilineBasic? .joining cs
  | _, '\\' :: x :: cs =>
    if x = ' ' || x = '\t' then multilineBasic? .opening cs
    else do
      let (text, rest) ← multilineBasic? .text cs
      return ((← escaped? x) :: text, rest)
  | _, '\n' :: cs => do
    let (text, rest) ← multilineBasic? .text cs
    return ('\n' :: text, rest)
  | _, '\r' :: '\n' :: cs => do
    let (text, rest) ← multilineBasic? .text cs
    return ('\n' :: text, rest)
  | _, c :: cs => do
    let (text, rest) ← multilineBasic? .text cs
    if isText c && c ≠ '\\' then return (c :: text, rest) else none

/-- A string in three single quotes. -/
def multilineLiteral? : List Char → Option (List Char × List Char)
  | [] => none
  | '\'' :: '\'' :: '\'' :: '\'' :: '\'' :: cs => some (['\'', '\''], cs)
  | '\'' :: '\'' :: '\'' :: '\'' :: cs => some (['\''], cs)
  | '\'' :: '\'' :: '\'' :: cs => some ([], cs)
  | '\n' :: cs => do
    let (text, rest) ← multilineLiteral? cs
    return ('\n' :: text, rest)
  | '\r' :: '\n' :: cs => do
    let (text, rest) ← multilineLiteral? cs
    return ('\n' :: text, rest)
  | c :: cs => do
    let (text, rest) ← multilineLiteral? cs
    if isText c then return (c :: text, rest) else none

/-- Drops a line break at the very front. -/
def dropBreak : List Char → List Char
  | '\n' :: cs => cs
  | '\r' :: '\n' :: cs => cs
  | cs => cs

/-- A string with its quotes, of one line. -/
def lineString? : List Char → Option (List Char × List Char)
  | '"' :: cs => basic? cs
  | '\'' :: cs => literal? cs
  | _ => none

/-- A string with its quotes. -/
def string? : List Char → Option (List Char × List Char)
  | '"' :: '"' :: '"' :: cs => multilineBasic? .text (dropBreak cs)
  | '\'' :: '\'' :: '\'' :: cs => multilineLiteral? (dropBreak cs)
  | cs => lineString? cs

end Promotion.Toml
