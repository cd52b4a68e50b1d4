/-!
The characters that count as white space in text.
-/

namespace ConfinedHttp

/-- The characters with the property White_Space. -/
def isBlank (character : Char) : Bool :=
  let code := character.toNat
  (0x09 ≤ code && code ≤ 0x0D) || code == 0x20 || code == 0x85 || code == 0xA0 ||
    code == 0x1680 || (0x2000 ≤ code && code ≤ 0x200A) || code == 0x2028 || code == 0x2029 ||
    code == 0x202F || code == 0x205F || code == 0x3000

/-- This function removes the characters of one kind from both ends of a text. -/
def trimEnds (removed : Char → Bool) (text : List Char) : List Char :=
  ((text.dropWhile removed).reverse.dropWhile removed).reverse

end ConfinedHttp
