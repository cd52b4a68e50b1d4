import ConfinedHttp.Number.Binary64
import ConfinedHttp.Text.Ascii

/-!
The shortest decimal text that reads back as a binary number.
-/

namespace ConfinedHttp.Shortest

/-- A decimal number: its digits as one number, and the power of ten of the last digit. -/
structure Decimal where
  digits : Nat
  exponent : Int

/-- The numbers that round to a binary number lie between two ratios over one denominator.  The
ends belong to them when the significand is even. -/
structure Neighbourhood where
  value : Nat
  low : Nat
  high : Nat
  denominator : Nat
  closed : Bool

/-- Below the least significand of an exponent the numbers lie twice as dense. -/
def neighbourhood (number : Binary64) : Neighbourhood :=
  let size := number.significand
  let atEdge := size == Binary64.leastFull && number.exponent != Binary64.leastExponent
  let (unit, denominator) := Binary64.scaleRatio 1 4 number.exponent
  { value := 4 * size * unit
    low := (4 * size - (if atEdge then 1 else 2)) * unit
    high := (4 * size + 2) * unit
    denominator
    closed := size % 2 == 0 }

/-- This function tests whether a ratio rounds to the number. -/
def Neighbourhood.holds (around : Neighbourhood) (numerator denominator : Nat) : Bool :=
  let here := numerator * around.denominator
  let low := around.low * denominator
  let high := around.high * denominator
  if around.closed then low ≤ here && here ≤ high else low < here && here < high

/-- This function counts the decimal digits before the point, which is zero or less for a number
below one tenth of one. -/
def places (numerator denominator : Nat) : Int :=
  if denominator ≤ numerator then (Nat.toDigits 10 (numerator / denominator)).length
  else -(((List.range 400).find? fun count => denominator ≤ numerator * Nat.pow 10 (count + 1)).getD 0)

/-- This function multiplies a ratio by a power of ten. -/
def scaleTen (numerator denominator : Nat) (exponent : Int) : Nat × Nat :=
  if 0 ≤ exponent then (numerator * Nat.pow 10 exponent.toNat, denominator)
  else (numerator, denominator * Nat.pow 10 (-exponent).toNat)

/-- This function looks at the two multiples of a power of ten next to the number, and returns the
nearer one of those that round to it. -/
def nearest? (around : Neighbourhood) (exponent : Int) : Option Decimal :=
  let (scaled, unit) := scaleTen around.value around.denominator (-exponent)
  let below := scaled / unit
  let fits (digits : Nat) : Bool :=
    let (numerator, denominator) := scaleTen digits 1 exponent
    0 < digits && around.holds numerator denominator
  let belowIsNearer := 2 * (scaled % unit) < unit || (2 * (scaled % unit) == unit && below % 2 == 0)
  if fits below && (belowIsNearer || !fits (below + 1)) then some ⟨below, exponent⟩
  else if fits (below + 1) then some ⟨below + 1, exponent⟩
  else none

/-- This function drops the zeros at the end of a positive number, at most `count` of them. -/
def dropZeros : Nat → Decimal → Decimal
  | 0, decimal => decimal
  | count + 1, decimal =>
    if decimal.digits % 10 = 0 then dropZeros count ⟨decimal.digits / 10, decimal.exponent + 1⟩
    else decimal

/-- This function finds the fewest digits, of at most seventeen, that read back as the number. -/
def decimal (number : Binary64) : Decimal :=
  if number.isZero then ⟨0, 0⟩
  else
    let around := neighbourhood number
    let whole := places around.value around.denominator
    let found := (List.range 17).findSome? fun (count : Nat) =>
      nearest? around (whole - (count + 1 : Nat))
    dropZeros 20 (found.getD ⟨0, 0⟩)

/-- This function writes digits with the point behind the given number of them. -/
def writeFixed (digits : List Char) (point : Int) : List Char :=
  if point ≤ 0 then '0' :: '.' :: List.replicate (-point).toNat '0' ++ digits
  else if digits.length ≤ point.toNat then
    digits ++ List.replicate (point.toNat - digits.length) '0' ++ ['.', '0']
  else digits.take point.toNat ++ '.' :: digits.drop point.toNat

/-- This function writes one digit before the point and a power of ten with its sign. -/
def writeScientific (digits : List Char) (exponent : Int) : List Char :=
  let fraction := if digits.length = 1 then [] else '.' :: digits.drop 1
  let sign := if exponent < 0 then '-' else '+'
  digits.take 1 ++ fraction ++ 'e' :: sign :: Ascii.decimal exponent.natAbs

/-- Numbers from one hundred thousandth up to below ten to the sixteenth have their point in place.
All others have a power of ten. -/
def write (number : Binary64) : List Char :=
  let found := decimal number
  let digits := Ascii.decimal found.digits
  let point := (digits.length : Int) + found.exponent
  let size :=
    if number.isZero then ['0', '.', '0']
    else if -5 < point ∧ point ≤ 16 then writeFixed digits point
    else writeScientific digits (point - 1)
  if number.negative then '-' :: size else size

end ConfinedHttp.Shortest
