/-!
# Writing JSON

The values that diagnostics are written as, and their text over several lines: each item or field on a line of its own,
two spaces deeper than the brackets around it.  In strings the quote, the backslash and the control characters are
escaped, and all other characters stand for themselves.
-/
namespace Promotion.Json

inductive Value where
  | string (text : List Char)
  | number (value : Nat)
  | array (items : List Value)
  | object (fields : List (List Char × Value))

/-- The escapes of one letter: the character, and the letter behind the backslash. -/
def shortEscapes : List (Char × Char) :=
  [('"', '"'), ('\\', '\\'), ('\x08', 'b'), ('\t', 't'), ('\n', 'n'), ('\x0c', 'f'), ('\r', 'r')]

/-- A character as it stands in a string. -/
def escapedChar (c : Char) : List Char :=
  match shortEscapes.lookup c with
  | some letter => ['\\', letter]
  | none =>
    if c.toNat < 0x20 then ['\\', 'u', '0', '0', Nat.digitChar (c.toNat / 16), Nat.digitChar (c.toNat % 16)] else [c]

def quotedText (text : List Char) : List Char := '"' :: text.flatMap escapedChar ++ ['"']

/-- A line break and the spaces of a depth. -/
def lineBreak (depth : Nat) : List Char := '\n' :: List.replicate (2 * depth) ' '

namespace Value

mutual

/-- The text of a value that stands at the given depth. -/
def render (depth : Nat) : Value → List Char
  | string text => quotedText text
  | number n => Nat.toDigits 10 n
  | array [] => ['[', ']']
  | array (v :: vs) =>
    '[' :: lineBreak (depth + 1) ++ v.render (depth + 1) ++ renderItems (depth + 1) vs ++ lineBreak depth ++ [']']
  | object [] => ['\x7b', '\x7d']
  | object ((k, v) :: fields) =>
    '\x7b' :: lineBreak (depth + 1) ++ quotedText k ++ [':', ' '] ++ v.render (depth + 1) ++
      renderFields (depth + 1) fields ++ lineBreak depth ++ ['\x7d']

/-- The items behind the first. -/
def renderItems (depth : Nat) : List Value → List Char
  | [] => []
  | v :: vs => ',' :: lineBreak depth ++ v.render depth ++ renderItems depth vs

/-- The fields behind the first. -/
def renderFields (depth : Nat) : List (List Char × Value) → List Char
  | [] => []
  | (k, v) :: fields =>
    ',' :: lineBreak depth ++ quotedText k ++ [':', ' '] ++ v.render depth ++ renderFields depth fields

end

/-- The text of a value. -/
def text (v : Value) : String := String.ofList (v.render 0)

end Value

end Promotion.Json
