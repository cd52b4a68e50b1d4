import ConfinedHttp.Text.Ascii
import ConfinedHttp.Text.Split

/-!
Character properties as closed ranges of code points.  A table is written as hexadecimal numbers:
each range is the gap after the range before it, then its length.
-/

namespace ConfinedHttp

/-- This function reads the hexadecimal numbers of a line, which single spaces separate. -/
def lineNumbers (line : List Char) : List Nat :=
  (splitAt (· == ' ') line).map (Ascii.numberOf 16)

/-- This function reads the numbers of a table line by line. -/
def tableNumbers (table : List String) : List Nat :=
  table.flatMap fun line => lineNumbers line.toList

/-- The first and the last code point of each range, in increasing order. -/
structure Ranges where
  bounds : List (Nat × Nat)

namespace Ranges

/-- This function places gaps and lengths one after another from a code point on. -/
def place (next : Nat) : List Nat → List (Nat × Nat)
  | gap :: size :: rest =>
    (next + gap, next + gap + size - 1) :: place (next + gap + size) rest
  | _ => []

/-- This function reads a table of gaps and lengths. -/
def read (table : List String) : Ranges := ⟨place 0 (tableNumbers table)⟩

/-- This function tests whether a character lies in one of the ranges. -/
def contains (ranges : Ranges) (character : Char) : Bool :=
  ranges.bounds.any fun bound =>
    bound.1 ≤ character.toNat && character.toNat ≤ bound.2

end Ranges

end ConfinedHttp
