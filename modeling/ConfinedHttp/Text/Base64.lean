import ConfinedHttp.Text.Utf8

/-!
Base64 with padding: three bytes become four characters.
-/

namespace ConfinedHttp.Base64

def alphabet : List Char :=
  "ABCDEFGHIJKLMNOPQRSTUVWXYZabcdefghijklmnopqrstuvwxyz0123456789+/".toList

/-- This function writes a value below 64. -/
def digit (value : Nat) : Char := alphabet.getD value '='

/-- This function reads a character as a value below 64. -/
def digitValue? (character : Char) : Option Nat := alphabet.idxOf? character

/-- This function writes bytes in groups of three.  An incomplete group is filled with padding. -/
def encode : Bytes → List Char
  | [] => []
  | [first] =>
    [digit (first.toNat / 4), digit (first.toNat % 4 * 16), '=', '=']
  | [first, second] =>
    [digit (first.toNat / 4), digit (first.toNat % 4 * 16 + second.toNat / 16),
      digit (second.toNat % 16 * 4), '=']
  | first :: second :: third :: rest =>
    digit (first.toNat / 4) :: digit (first.toNat % 4 * 16 + second.toNat / 16) ::
      digit (second.toNat % 16 * 4 + third.toNat / 64) :: digit (third.toNat % 64) :: encode rest

/-- This function reads groups of four characters.  Padding may stand only at the end of the last
group, and the bits it leaves over must be zero. -/
def decode? : List Char → Option Bytes
  | [] => some []
  | [a, b, '=', '='] => do
    let first ← digitValue? a
    let second ← digitValue? b
    if second % 16 = 0 then some [UInt8.ofNat (first * 4 + second / 16)] else none
  | [a, b, c, '='] => do
    let first ← digitValue? a
    let second ← digitValue? b
    let third ← digitValue? c
    if third % 4 = 0 then
      some [UInt8.ofNat (first * 4 + second / 16), UInt8.ofNat (second % 16 * 16 + third / 4)]
    else none
  | a :: b :: c :: d :: rest => do
    let first ← digitValue? a
    let second ← digitValue? b
    let third ← digitValue? c
    let fourth ← digitValue? d
    let others ← decode? rest
    some (UInt8.ofNat (first * 4 + second / 16) :: UInt8.ofNat (second % 16 * 16 + third / 4) ::
      UInt8.ofNat (third % 4 * 64 + fourth) :: others)
  | _ => none

end ConfinedHttp.Base64
