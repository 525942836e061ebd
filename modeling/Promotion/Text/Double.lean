/-!
# The shortest text of a double

A double is `m · 2 ^ q` with `m < 2 ^ 53`.  All reals nearer to it than to its neighbours read back as it, those half-way
only if `m` is even.  The text has the fewest digits of all decimals in that interval, and the nearest of those to the
double, of two equally near the larger; it is written positionally, never with an exponent.

All comparisons are exact.  Quantities are counted in quarters of the last place, `2 ^ (q - 2)`, because below a power of
two the next double is only half as far.
-/
namespace Promotion.Text

/-- A positive double, `mantissa · 2 ^ exponent`. -/
structure Double where
  mantissa : Nat
  exponent : Int

namespace Double

/-- The highest bit of a mantissa of full length, `2 ^ 52`. -/
def leadingBit : Nat := 0x10000000000000

/-- The absolute value of a finite float that is not zero. -/
def ofBits (bits : UInt64) : Double :=
  let fraction : Nat := bits.toNat % leadingBit
  let biased : Nat := bits.toNat / leadingBit % 0x800
  if biased = 0 then ⟨fraction, -1074⟩ else ⟨leadingBit + fraction, (biased : Int) - 1075⟩

/-- `n · 2 ^ q · 10 ^ k`, where a negative exponent counts for nothing. -/
def scaledUp (n : Nat) (q k : Int) : Nat := n <<< q.toNat * Nat.pow 10 k.toNat

/-- Compares `a` quarters of the last place with `c · 10 ^ k`. -/
def compareQuarters (d : Double) (a c : Nat) (k : Int) : Ordering :=
  let q := d.exponent - 2
  compare (scaledUp a q (-k)) (scaledUp c (-q) k)

/-- Whether `c · 10 ^ k` reads back as the double. -/
def readsBack (d : Double) (c : Nat) (k : Int) : Bool :=
  let m := d.mantissa
  let lower := if m = leadingBit && -1074 < d.exponent then 4 * m - 1 else 4 * m - 2
  let isOk (o : Ordering) (strict : Ordering) : Bool := o = strict || (o = .eq && m % 2 = 0)
  isOk (d.compareQuarters lower c k) .lt && isOk (d.compareQuarters (4 * m + 2) c k) .gt

/-- The largest `c` with `c · 10 ^ k` not above the double. -/
def floorAt (d : Double) (k : Int) : Nat :=
  scaledUp d.mantissa d.exponent (-k) / scaledUp 1 (-d.exponent) k

/-- Whether `c · 10 ^ k` is less far below the double than `(c + 1) · 10 ^ k` is above it. -/
def isNearerBelow (d : Double) (c : Nat) (k : Int) : Bool :=
  d.compareQuarters (8 * d.mantissa) (2 * c + 1) k = .lt

/-- Digits `c` and a place `k` such that `c · 10 ^ k` reads back, trying places downwards from `k`. -/
def search (d : Double) (k : Int) : Nat → Nat × Int
  | 0 => (d.floorAt k, k)
  | n + 1 =>
    let c := d.floorAt k
    match d.readsBack c k && 0 < c, d.readsBack (c + 1) k with
    | true, true => (if d.isNearerBelow c k then c else c + 1, k)
    | true, false => (c, k)
    | false, true => (c + 1, k)
    | false, false => search d (k - 1) n

/-- The shortest decimal that reads back as the double: digits and the place of the last one. -/
def shortest (d : Double) : Nat × Int :=
  let bits : Int := d.exponent + (Nat.log2 d.mantissa : Int)
  d.search (bits * 30103 / 100000 + 1) 30

end Double

/-- Digits with the point where the place of the last one puts it. -/
def positional (digits : List Char) (place : Int) : List Char :=
  if 0 ≤ place then digits ++ List.replicate place.toNat '0' ++ ['.', '0']
  else
    let n := (-place).toNat
    let padded := List.replicate (n + 1 - digits.length) '0' ++ digits
    padded.take (padded.length - n) ++ ['.'] ++ padded.drop (padded.length - n)

/-- The text of a finite float, with a point and at least one digit on either side of it. -/
def doubleText (f : Float) : String :=
  let sign := if f.toBits >>> 63 = 1 then "-" else ""
  if f.toBits <<< 1 = 0 then sign ++ "0.0"
  else
    let (c, k) := (Double.ofBits f.toBits).shortest
    let digits := Nat.toDigits 10 c
    let trailing := (digits.reverse.takeWhile (· = '0')).length
    sign ++ String.ofList (positional (digits.take (digits.length - trailing)) (k + trailing))

end Promotion.Text
