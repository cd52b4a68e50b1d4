/-!
Finite binary numbers with 53 significant bits.  Rounding goes to the nearest number, and of two
equally near ones to the one with the even significand.
-/

namespace ConfinedHttp

/-- The number is the significand times a power of two.  In normal form the significand has 53
bits, or fewer with the least exponent. -/
structure Binary64 where
  negative : Bool
  significand : Nat
  exponent : Int
deriving DecidableEq, Repr

namespace Binary64

def leastExponent : Int := -1074

def greatestExponent : Int := 971

/-- Two to the power of 52: the least significand of 53 bits. -/
def leastFull : Nat := 4503599627370496

/-- Two to the power of 53: the least significand that is too long. -/
def tooLong : Nat := 9007199254740992

def zero : Binary64 := ⟨false, 0, leastExponent⟩

/-- This function divides and rounds to the nearest whole number, a half to the even one. -/
def divideRounded (numerator denominator : Nat) : Nat :=
  let quotient := numerator / denominator
  let doubled := 2 * (numerator % denominator)
  if denominator < doubled ∨ (denominator = doubled ∧ quotient % 2 = 1) then quotient + 1
  else quotient

/-- This function multiplies a ratio by a power of two. -/
def scaleRatio (numerator denominator : Nat) (exponent : Int) : Nat × Nat :=
  if 0 ≤ exponent then (numerator * Nat.pow 2 exponent.toNat, denominator)
  else (numerator, denominator * Nat.pow 2 (-exponent).toNat)

/-- This function finds the exponent that leaves 53 bits before the point, or the least one. -/
def exponentFor (numerator denominator : Nat) : Int :=
  let estimate : Int := (numerator.log2 : Int) - denominator.log2 - 52
  let (scaled, unit) := scaleRatio numerator denominator (-estimate)
  max leastExponent (if scaled < unit * leastFull then estimate - 1 else estimate)

/-- This function gives the number nearest to a ratio, unless the ratio is too large. -/
def ofRatio? (numerator denominator : Nat) : Option Binary64 :=
  if numerator = 0 then some zero
  else
    let exponent := exponentFor numerator denominator
    let (scaled, unit) := scaleRatio numerator denominator (-exponent)
    let rounded := divideRounded scaled unit
    let number : Binary64 :=
      if rounded = tooLong then ⟨false, leastFull, exponent + 1⟩ else ⟨false, rounded, exponent⟩
    if number.exponent ≤ greatestExponent then some number else none

def ofNat? (value : Nat) : Option Binary64 := ofRatio? value 1

def neg (number : Binary64) : Binary64 := { number with negative := !number.negative }

def isZero (number : Binary64) : Bool := number.significand == 0

/-- This function gives the size of a number as a ratio. -/
def ratio (number : Binary64) : Nat × Nat := scaleRatio number.significand 1 number.exponent

/-- This function multiplies the sizes of two numbers and rounds. -/
def mulSize? (left right : Binary64) : Option Binary64 :=
  ofRatio? (left.ratio.1 * right.ratio.1) (left.ratio.2 * right.ratio.2)

/-- This function divides the sizes of two numbers and rounds. -/
def divSize? (left right : Binary64) : Option Binary64 :=
  ofRatio? (left.ratio.1 * right.ratio.2) (left.ratio.2 * right.ratio.1)

end Binary64

end ConfinedHttp
