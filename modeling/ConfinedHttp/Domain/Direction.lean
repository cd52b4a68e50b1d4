import ConfinedHttp.Text.Ranges

/-!
The direction rule for names that mix scripts written from left to right and from right to left.
-/

namespace ConfinedHttp.Domain.Direction

/-- The letters written from right to left. -/
def rightToLeft : Ranges := Ranges.read
    ["5be 1 1 1 2 1 2 1 9 1b 4 6 13 1 2 1 1 1 d 1 1 2e 22 3 1 4 4 5d f 2 7 2 a 14 2 1 1 1e 1d 59 b",
      "1 e 2b 9 2 4 1 3 18 4 1 9 1 3 1 7 f 1 19 5 1 1 b 5 20 10 2a f2e8 21 1bd 2 36 7 a4 1 98c 6 2",
      "1 1 2c 1 2 3 1 2 17 1 48 8 9 30 13 1 2 5 21 4 1a 5 1b 26 38 4 14 2 2f f 4 1 3 1 1d a 9 7 9 7",
      "40 20 25 6 c 9 36 a 16 2 1b 5 1a 7 4 c 7 50 49 77 33 7 2a 1c 10 1e 18 8 2 f0 2a 3 1 2 2 10 6",
      "8 9 27 28 8 16 b 9 16 12 4 4 26 1c 14 17 d809 c5 2 9 52 22 7 1 4 a 4 2 311 44 4c 3d"]

/-- The digits that keep their own direction inside text from right to left. -/
def arabicDigits : Ranges := Ranges.read
    ["660 a 1 2 106c3 a 126 1f"]

/-- The digits that follow the direction around them. -/
def europeanDigits : Ranges := Ranges.read
    ["30 a 6b6 a fbe7 1b"]

/-- The marks that take the direction of the character before them. -/
def nonspacing : Ranges := Ranges.read
    ["300 40 2 1 3 9 1 20 113 7 107 2d 1 1 1 2 1 2 1 1 48 b 30 15 10 1 65 7 2 6 2 2 1 4 23 1 1e 1b",
      "5b b 3a 9 9 1 18 4 1 9 1 3 1 5 2b 3 3b 9 2a 18 1 20 37 1 1 1 4 8 4 1 3 7 a 2 1d 1 3a 1 4 4 8",
      "1 14 2 1a 1 2 2 39 1 4 2 4 2 2 3 3 1 1e 2 3 1 b 2 39 1 4 5 1 2 4 1 14 2 16 6 1 1 3a 1 2 1 1",
      "4 8 1 7 2 b 2 1e 1 3d 1 c 1 32 1 3 1 37 1 1 3 5 3 1 4 7 2 b 2 1d 1 3a 1 f 2 14 2 1c 2 39 2 4",
      "4 8 1 14 2 1d 1 48 1 7 3 1 1 5a 1 2 7 c 8 62 1 2 9 b 7 49 2 1b 1 1 1 1 1 37 2 1 1 5 5 1 1 1",
      "3 1 2 5 6 1 4 1 4 1 4 1 4 1 4 1 c 1 3 9 1 66 4 1 6 1 2 2 2 19 2 4 3 10 4 d 1 2 2 6 1 f 1 2bf",
      "3 3b2 3 1d 2 1e 2 1e 2 43 7 8 1 2 b 9 1 a7 2 22 1 76 3 4 2 9 1 6 3 db 2 2 1 3a 1 1 7 1 1 1 1",
      "2 8 6 a 2 1 30 2e 2 c 14 4 30 1 1 5 1 1 5 1 28 9 c 2 20 4 2 2 1 3 38 1 1 2 3 1 1 3 3a 8 2 2",
      "98 3 1 d 1 7 4 1 6 1 3 2 c6 40 2d0 21 bfe 3 8d 1 60 20 22a 4 6b 2 75d4 4 1 a 20 2 50 2 110 1",
      "3 1 4 1 19 2 5 1 97 2 1a 12 d 1 26 8 19 b 2e 3 30 1 2 4 2 2 27 1 43 6 2 2 2 2 c 1 8 1 2f 1",
      "33 1 1 3 2 2 5 2 1 1 2a 2 8 1 ee 1 2 1 4 1 4f30 1 301 10 3cd 1 e2 1 95 5 686 3 1 2 5 4 28 3",
      "4 1 a5 2 23d 4 41 5 13d 2 4d 6 46 b 31 4 7b 1 36 f 29 1 2 2 a 3 31 4 2 2 7 1 3d 3 24 5 1 8",
      "3e 1 c 2 34 9 a 4 2 1 5f 3 2 1 1 2 6 1 2 1 9d 1 3 8 15 2 39 2 3 1 25 7 3 5 46 6 d 1 1 1 1 1",
      "e 2 55 8 2 3 1 1 17 1 54 6 1 1 4 2 1 2 ee 4 6 2 1 2 1b 2 55 8 2 1 1 2 6a 1 1 1 2 6 1 1 65 3",
      "2 4 1 5 103 9 1 2 100 2 1 1 4 1 90 4 2 2 4 1 20 6 2 2 28 6 2 4 8 1 9 6 2 3 2e d 1 2 c6 1 1 3",
      "1 1 c9 7 1 6 54 16 2 7 1 2 1 2 7a 6 3 1 1 2 1 7 1 1 48 2 3 1 1 1 15b 2 b 2 34 5 5 1 1 1 17 1",
      "14e5 1 6 f 2cc8 c 3 3 9c0 5 3b 7 418 1 3f 4 51 1 4cb8 2 1261 2e 2 17 220 3 11 8 2 7 1e 4 94",
      "3 7bb 37 4 32 8 1 e 1 16 5 1 f 550 7 1 11 2 7 1 2 1 5 64 1 a0 7 177 1 3d 4 1fc 4 fe 2 f3 1 2",
      "1 7 2 5 1 1da 7 6d 7"]

/-- The characters that may stand in text of either direction. -/
def neutral : Ranges := Ranges.read
    ["0 9 5 e 5 f a 7 1a 6 1a 5 21 7 1 1 1 2 1 1 1 2 4 2 3 1 3 1 17 1 1f 1 1c1 2 7 e 2 6 6 2 5 9 1",
      "11 75 1 80 1 193 1 2 3 76 2 1 2 1 1 1 2 5a 1 73 1 a 1 10c 4 1f8 2 7 1 f5 1 101 8 7d 7 1c0 1",
      "fa 4 452 a 66 1 29a 2 13e 1 14 a 6 b 135 1 3 2 98 22 60c 2 2 1 1 5 1 c 3 1 8 3 2 1 2 4 1 1 1",
      "8 3 d 1 7 41 8 1 19 42 1 3 1 b 1 2 2 5 2 3 1 1 1 1 1 1 1 4 1 b 1 6 4 5 4 3c 2 4 9c 2 1 2 f8",
      "2 b 45 1a 1 91 19 b a0 1c1 1 153 100 10c 1 67 3 65 1 97 2 20 1 69 e5 6 e 7 100 5e 22 1a 1 4",
      "1 53 10e 1 1 2 3 19 f 1 6 1 5 3 60 1 5a 1 c4 24 1bdc 40 5690 37 146 3 63 1 a 2 80 22 66 1 9f",
      "4 c 2 3a 4 2f2 2 51d2 12 7f 1 2d 3 45 2 2ba 1 3e 4d 3 d 3 1 77e 1 219 7 512 14 5fa d 968 1d",
      "4ff0 1 6206 2 15 42 3 1 ba 57 fa8 1 bf0 2 10e 2c 4 64 c f 2 f 1 f 1 25 15 5 1f 1 3d 3 3d 1",
      "b2 6 9a 3d8 4 11 3 d 3 77 4 5f 6 c 4 1 f c 4 38 8 a 6 28 8 1e 2 2 4e 154 c e 2 d 3 9 7 2e 1",
      "7 8 e 4 9 7 9 7 93 1 37"]

/-- The white space, separators and controls that no label may hold. -/
def separators : Ranges := Ranges.read
    ["9 5 e 5"]

/-- This function drops the marks at the end of a label. -/
def withoutMarks (label : List Char) : List Char :=
  (label.reverse.dropWhile nonspacing.contains).reverse

/-- A label turns the whole name into one of mixed direction when it holds such a letter or digit. -/
def turns (label : List Char) : Bool :=
  label.any fun character => rightToLeft.contains character || arabicDigits.contains character

/-- This function tests whether a character is a letter written from left to right, which is what
no table names. -/
def isLeftToRight (character : Char) : Bool :=
  !(rightToLeft.contains character || arabicDigits.contains character ||
    europeanDigits.contains character || nonspacing.contains character ||
    neutral.contains character || separators.contains character)

/-- A label that starts with a letter from right to left holds no letter of the other direction,
ends in a letter or a digit, and does not mix both kinds of digits. -/
def isRightToLeftLabel (label : List Char) : Bool :=
  (label.all fun character =>
    !isLeftToRight character && !separators.contains character) &&
  ((withoutMarks label).getLast?.any fun character =>
    rightToLeft.contains character || arabicDigits.contains character ||
      europeanDigits.contains character) &&
  !(label.any arabicDigits.contains && label.any europeanDigits.contains)

/-- A label that starts with a letter from left to right holds nothing of the other direction and
ends in a letter or a European digit. -/
def isLeftToRightLabel (label : List Char) : Bool :=
  (label.all fun character =>
    !rightToLeft.contains character && !arabicDigits.contains character &&
      !separators.contains character) &&
  ((withoutMarks label).getLast?.any fun character =>
    isLeftToRight character || europeanDigits.contains character)

/-- In a name of mixed direction each label follows the direction of its first letter. -/
def follows : List Char → Bool
  | [] => true
  | first :: rest =>
    if rightToLeft.contains first then isRightToLeftLabel (first :: rest)
    else isLeftToRight first && isLeftToRightLabel (first :: rest)

end ConfinedHttp.Domain.Direction
