import ConfinedHttp.Text.Ascii
import ConfinedHttp.Text.Split

/-!
IPv4 addresses.  Reading is generous: a part may be octal or hexadecimal, and the last part may
stand for several bytes.  Writing uses four decimal bytes.
-/

namespace ConfinedHttp

/-- An IPv4 address is a word of 32 bits. -/
structure Ipv4 where
  word : UInt32
deriving DecidableEq, Repr

namespace Ipv4

/-- This function gives the base of a written number and its digits. -/
def digitsOf (text : List Char) : Nat × List Char :=
  match text with
  | '0' :: 'x' :: rest => (16, rest)
  | '0' :: 'X' :: rest => (16, rest)
  | '0' :: next :: rest => (8, next :: rest)
  | other => (10, other)

/-- This function reads a number in its base.  A base mark without digits is zero. -/
def number? (text : List Char) : Option Nat :=
  let (base, digits) := digitsOf text
  if text.isEmpty then none
  else if digits.all fun digit => (Ascii.hexValue? digit).any (· < base) then
    some (Ascii.numberOf base digits)
  else none

/-- A name is meant as an address when its last part is a number or looks like one.  A dot at the
end is not counted. -/
def endsInNumber (name : List Char) : Bool :=
  let last := match (splitAt (· == '.') name).reverse with
    | [] :: before :: _ => before
    | last :: _ => last
    | [] => []
  (!last.isEmpty && last.all Char.isDigit) || (number? last).isSome

/-- This function joins the values of the parts.  Every part but the last is one byte, and the last
fills what is left. -/
def combine? (values : List Nat) : Option Nat :=
  match values.reverse with
  | [] => none
  | last :: before =>
    let room := Nat.pow 256 (5 - values.length)
    if values.length ≤ 4 ∧ before.all (· < 256) ∧ last < room then
      some (before.foldr (fun value total => total * 256 + value) 0 * room + last)
    else none

/-- This function reads an address.  A dot at the end is not counted. -/
def read? (text : List Char) : Option Ipv4 := do
  let parts := splitAt (· == '.') text
  let counted := if parts.getLast? = some [] then parts.dropLast else parts
  let value ← combine? (← counted.mapM number?)
  some ⟨UInt32.ofNat value⟩

/-- This function gives the four bytes, the most significant first. -/
def bytes (address : Ipv4) : List Nat :=
  let word := address.word.toNat
  [word / 16777216, word / 65536 % 256, word / 256 % 256, word % 256]

/-- This function writes the four bytes in decimal with dots between them. -/
def write (address : Ipv4) : List Char :=
  ['.'].intercalate (address.bytes.map Ascii.decimal)

end Ipv4

end ConfinedHttp
