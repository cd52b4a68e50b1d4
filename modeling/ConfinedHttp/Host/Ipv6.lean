import ConfinedHttp.Text.Ascii
import ConfinedHttp.Text.Split

/-!
IPv6 addresses.  One pair of colons may stand for a run of zero groups, and the last two groups
may be written like an IPv4 address.
-/

namespace ConfinedHttp

/-- An IPv6 address is eight groups of sixteen bits. -/
structure Ipv6 where
  groups : List UInt16
  size : groups.length = 8
deriving DecidableEq, Repr

namespace Ipv6

/-- This function reads a group of one to four hexadecimal digits. -/
def group? (text : List Char) : Option UInt16 :=
  if 1 ≤ text.length ∧ text.length ≤ 4 ∧ text.all fun digit => (Ascii.hexValue? digit).isSome then
    some (UInt16.ofNat (Ascii.numberOf 16 text))
  else none

/-- This function reads a decimal byte without leading zeros. -/
def byte? (text : List Char) : Option Nat :=
  if 1 ≤ text.length ∧ text.length ≤ 3 ∧ text.all Char.isDigit ∧
      (text.head? = some '0' → text.length = 1) ∧ Ascii.numberOf 10 text < 256 then
    some (Ascii.numberOf 10 text)
  else none

/-- This function reads four decimal bytes as two groups. -/
def dotted? (text : List Char) : Option (List UInt16) := do
  match ← (splitAt (· == '.') text).mapM byte? with
  | [first, second, third, fourth] =>
    some [UInt16.ofNat (first * 256 + second), UInt16.ofNat (third * 256 + fourth)]
  | _ => none

/-- This function reads groups with colons between them.  Only the last may be dotted. -/
def groups? (mayEndDotted : Bool) : List (List Char) → Option (List UInt16)
  | [] => some []
  | [last] => if mayEndDotted && last.contains '.' then dotted? last else (group? last).map ([·])
  | first :: rest => do
    let group ← group? first
    let others ← groups? mayEndDotted rest
    some (group :: others)

/-- This function cuts a text at its first pair of colons. -/
def cutAtGap : List Char → Option (List Char × List Char)
  | ':' :: ':' :: rest => some ([], rest)
  | other :: rest => (cutAtGap rest).map fun (before, after) => (other :: before, after)
  | [] => none

/-- This function reads groups with colons between them, or no group from no text. -/
def side? (mayEndDotted : Bool) (text : List Char) : Option (List UInt16) :=
  if text.isEmpty then some [] else groups? mayEndDotted (splitAt (· == ':') text)

/-- This function makes an address of eight groups. -/
def ofGroups? (groups : List UInt16) : Option Ipv6 :=
  if size : groups.length = 8 then some ⟨groups, size⟩ else none

/-- This function reads an address.  The gap stands for at least one group. -/
def read? (text : List Char) : Option Ipv6 := do
  match cutAtGap text with
  | none => ofGroups? (← groups? true (splitAt (· == ':') text))
  | some (before, after) =>
    let left ← side? false before
    let right ← side? true after
    if left.length + right.length ≤ 7 then
      ofGroups? (left ++ List.replicate (8 - (left.length + right.length)) 0 ++ right)
    else none

/-- This function counts the zero groups at the front. -/
def zeros (groups : List UInt16) : Nat := (groups.takeWhile (· == 0)).length

/-- This function finds the first of the longest runs of zero groups.  It returns where the run
starts and how long it is. -/
def longestRun : List UInt16 → Nat × Nat
  | [] => (0, 0)
  | group :: rest =>
    let here := zeros (group :: rest)
    let later := longestRun rest
    if later.2 ≤ here then (0, here) else (later.1 + 1, later.2)

/-- This function writes groups in hexadecimal with colons between them. -/
def writeGroups (groups : List UInt16) : List Char :=
  [':'].intercalate (groups.map fun group => Ascii.hexDigits group.toNat)

/-- This function writes an address.  The first of the longest runs of two or more zero groups
becomes the gap. -/
def write (address : Ipv6) : List Char :=
  let (start, count) := longestRun address.groups
  if count < 2 then writeGroups address.groups
  else
    writeGroups (address.groups.take start) ++ ':' :: ':' ::
      writeGroups (address.groups.drop (start + count))

end Ipv6

end ConfinedHttp
