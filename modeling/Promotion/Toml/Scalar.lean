import Promotion.Toml.Basic
/-!
# Numbers, dates and other bare scalars

A scalar that is no string is written without blanks inside, but for the blank that may stand between a date and a time.
So the reader takes all characters that can belong to it and reads them here as a whole.
-/
namespace Promotion.Toml

/-- The characters of bare scalars. -/
def isBareChar (c : Char) : Bool := c.isAlphanum || c = '+' || c = '-' || c = '.' || c = ':' || c = '_'

/-! ## Digits -/

/-- The value of a digit, up to base 36. -/
def digitValue (c : Char) : Nat :=
  if c.isDigit then c.toNat - '0'.toNat
  else if c.isUpper then c.toNat - 'A'.toNat + 10
  else if c.isLower then c.toNat - 'a'.toNat + 10
  else 36

def isDigitIn (base : Nat) (c : Char) : Bool := digitValue c < base

/-- Digits with underscores between them. -/
def digits? (base : Nat) : List Char → Option (List Char)
  | [] => none
  | [c] => if isDigitIn base c then some [c] else none
  | c :: '_' :: cs => do
    let ds ← digits? base cs
    if isDigitIn base c then return c :: ds else none
  | c :: cs => do
    let ds ← digits? base cs
    if isDigitIn base c then return c :: ds else none

def natOfDigits (base : Nat) (ds : List Char) : Nat := ds.foldl (fun n c => n * base + digitValue c) 0

/-- Decimal digits without a needless zero in front. -/
def plainDigits? (cs : List Char) : Option (List Char) := do
  let ds ← digits? 10 cs
  if ds.length > 1 && ds.head? = some '0' then none else return ds

/-- Takes a sign off, and says whether it is a minus. -/
def signed : List Char → Bool × List Char
  | '-' :: cs => (true, cs)
  | '+' :: cs => (false, cs)
  | cs => (false, cs)

/-! ## Integers -/

/-- Integers have 64 bits. -/
def inRange (n : Int) : Option Int := if -0x8000000000000000 ≤ n && n < 0x8000000000000000 then some n else none

def integer? : List Char → Option Int
  | '0' :: 'x' :: cs => do inRange (natOfDigits 16 (← digits? 16 cs))
  | '0' :: 'o' :: cs => do inRange (natOfDigits 8 (← digits? 8 cs))
  | '0' :: 'b' :: cs => do inRange (natOfDigits 2 (← digits? 2 cs))
  | cs => do
    let (isNegative, cs) := signed cs
    let n : Int := natOfDigits 10 (← plainDigits? cs)
    inRange (if isNegative then -n else n)

/-! ## Floats -/

/-- Whether the decimal rounds to infinity in double precision: it is at least half a unit above the largest double,
which lies between 10 ^ 308 and 10 ^ 309. -/
def Decimal.overflows (d : Decimal) : Bool :=
  let magnitude := d.exponent + (Nat.toDigits 10 d.digits).length
  d.digits ≠ 0 && (309 < magnitude || magnitude = 309 &&
    0x3fffffffffffff <<< 970 * Nat.pow 10 (-d.exponent).toNat ≤ d.digits * Nat.pow 10 d.exponent.toNat)

def exponent? (cs : List Char) : Option Int := do
  let (isNegative, cs) := signed cs
  let n : Int := natOfDigits 10 (← digits? 10 cs)
  return if isNegative then -n else n

/-- A decimal number with a fraction, an exponent or both. -/
def decimal? (cs : List Char) : Option Decimal := do
  let (isNegative, cs) := signed cs
  let (mantissa, tail) := cs.span fun c => c ≠ 'e' && c ≠ 'E'
  let (whole, fraction) := mantissa.span (· ≠ '.')
  if fraction.isEmpty && tail.isEmpty then none
  else
    let ds ← plainDigits? whole
    let fs ← if fraction.isEmpty then some [] else digits? 10 (fraction.drop 1)
    let e ← if tail.isEmpty then some 0 else exponent? (tail.drop 1)
    return ⟨isNegative, natOfDigits 10 (ds ++ fs), e - fs.length⟩

/-- Floats have double precision; a positive number too large for it is refused. -/
def float? (cs : List Char) : Option FloatValue :=
  match signed cs with
  | (isNegative, ['i', 'n', 'f']) => some (.infinite isNegative)
  | (_, ['n', 'a', 'n']) => some .nan
  | _ => do
    let d ← decimal? cs
    if !d.isNegative && d.overflows then none else return .finite d

/-! ## Dates and times -/

/-- Digits only, without underscores. -/
def natField? (cs : List Char) : Option Nat :=
  if cs.all Char.isDigit && !cs.isEmpty then some (natOfDigits 10 cs) else none

def isLeapYear (year : Nat) : Bool := year % 4 = 0 && (year % 100 ≠ 0 || year % 400 = 0)

def daysInMonth (year month : Nat) : Nat :=
  if month = 2 then if isLeapYear year then 29 else 28
  else if month = 4 || month = 6 || month = 9 || month = 11 then 30
  else 31

/-- `year-month-day` -/
def isDate : List Char → Bool
  | [y₁, y₂, y₃, y₄, '-', m₁, m₂, '-', d₁, d₂] =>
    match natField? [y₁, y₂, y₃, y₄], natField? [m₁, m₂], natField? [d₁, d₂] with
    | some year, some month, some day =>
      1 ≤ month && month ≤ 12 && 1 ≤ day && day ≤ daysInMonth year month
    | _, _, _ => false
  | _ => false

/-- `hour:minute` -/
def isHourMinute : List Char → Bool
  | [h₁, h₂, ':', m₁, m₂] =>
    match natField? [h₁, h₂], natField? [m₁, m₂] with
    | some hour, some minute => hour ≤ 23 && minute ≤ 59
    | _, _ => false
  | _ => false

/-- `hour:minute:second`, with a fraction if there is a point; a minute may have a leap second. -/
def isTime : List Char → Bool
  | h₁ :: h₂ :: c :: m₁ :: m₂ :: ':' :: s₁ :: s₂ :: fraction =>
    isHourMinute [h₁, h₂, c, m₁, m₂] &&
    (match natField? [s₁, s₂] with
      | some second => second ≤ 60
      | none => false) &&
    (match fraction with
      | [] => true
      | '.' :: ds => (natField? ds).isSome
      | _ => false)
  | _ => false

/-- A time with a zone if there is one: `Z`, or hours and minutes from universal time. -/
def isZonedTime (cs : List Char) : Bool :=
  let (time, zone) := cs.span fun c => c.isDigit || c = ':' || c = '.'
  isTime time &&
    match zone with
    | [] | ['Z'] | ['z'] => true
    | '+' :: zone | '-' :: zone => isHourMinute zone
    | _ => false

/-- A date, a time, or both with a `T` between them. -/
def isDatetime (cs : List Char) : Bool :=
  isDate cs || isTime cs ||
    (isDate (cs.take 10) && ((cs[10]? == some 'T') || (cs[10]? == some 't')) && isZonedTime (cs.drop 11))

/-! ## Bare scalars -/

def Scalar.ofBare? (cs : List Char) : Option Scalar :=
  if cs = "true".toList then some (.boolean true)
  else if cs = "false".toList then some (.boolean false)
  else if isDatetime cs then some .datetime
  else match integer? cs with
    | some n => some (.integer n)
    | none => (float? cs).map .float

end Promotion.Toml
