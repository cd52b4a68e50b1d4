/-!
Letter case, digits and comparison of text that ignores the case of ASCII letters only.
-/

namespace ConfinedHttp.Ascii

/-- This function folds the ASCII letters of a text and keeps every other character. -/
def lower (text : String) : String := String.ofList (text.toList.map Char.toLower)

/-- Two texts are the same name when they differ at most in the case of ASCII letters. -/
def sameName (left right : String) : Bool := lower left == lower right

/-- This function gives the value of a hexadecimal digit in either case. -/
def hexValue? (digit : Char) : Option Nat :=
  if '0' ≤ digit ∧ digit ≤ '9' then some (digit.toNat - '0'.toNat)
  else if 'a' ≤ digit ∧ digit ≤ 'f' then some (digit.toNat - 'a'.toNat + 10)
  else if 'A' ≤ digit ∧ digit ≤ 'F' then some (digit.toNat - 'A'.toNat + 10)
  else none

/-- This function writes a value below sixteen as a lower-case hexadecimal digit. -/
def lowerHexDigit (value : Nat) : Char :=
  if value < 10 then Char.ofNat ('0'.toNat + value) else Char.ofNat ('a'.toNat + value - 10)

/-- This function writes a value below sixteen as an upper-case hexadecimal digit. -/
def upperHexDigit (value : Nat) : Char :=
  if value < 10 then Char.ofNat ('0'.toNat + value) else Char.ofNat ('A'.toNat + value - 10)

/-- This function writes a number in hexadecimal without leading zeros. -/
def hexDigits (value : Nat) : List Char := (Nat.toDigits 16 value)

/-- This function reads a number from its digits in the given base, the most significant first. -/
def numberOf (base : Nat) (digits : List Char) : Nat :=
  digits.foldl (fun value digit => value * base + (hexValue? digit).getD 0) 0

/-- This function writes a number in decimal. -/
def decimal (value : Nat) : List Char := Nat.toDigits 10 value

end ConfinedHttp.Ascii
