import ConfinedHttp.Text.Ascii

/-!
The ASCII form of a label with other characters.  The ASCII characters come first.  The others
follow as numbers that say how many insertions to skip, written in digits of growing weight.
-/

namespace ConfinedHttp.Domain.Punycode

/-- The first digit threshold depends on how far a digit stands from the current bias. -/
def threshold (position bias : Nat) : Nat := max 1 (min 26 (position - bias))

/-- This function counts how often a number divides by 35 until it is at most 455. -/
def rescale (delta position : Nat) : Nat :=
  if large : 455 < delta then rescale (delta / 35) (position + 36)
  else position + 36 * delta / (delta + 38)
termination_by delta
decreasing_by omega

/-- The next bias follows the size of the number just written.  The first number of a label is
divided more strongly. -/
def adapt (delta count : Nat) (isFirst : Bool) : Nat :=
  let halved := if isFirst then delta / 700 else delta / 2
  rescale (halved + halved / count) 0

/-- This function writes a digit below 36 as a letter or a decimal digit. -/
def digit (value : Nat) : Char :=
  if value < 26 then Char.ofNat ('a'.toNat + value) else Char.ofNat ('0'.toNat + value - 26)

/-- This function reads a digit below 36. -/
def digitValue? (character : Char) : Option Nat :=
  if 'a' ≤ character ∧ character ≤ 'z' then some (character.toNat - 'a'.toNat)
  else if '0' ≤ character ∧ character ≤ '9' then some (character.toNat - '0'.toNat + 26)
  else none

/-- This function writes a number in digits whose weights depend on the bias.  A digit below its
threshold is the last one. -/
def writeNumber (bias number position : Nat) : List Char :=
  let least := threshold position bias
  if below : number < least then [digit number]
  else
    digit (least + (number - least) % (36 - least)) ::
      writeNumber bias ((number - least) / (36 - least)) (position + 36)
termination_by number
decreasing_by
  have positive : 1 ≤ threshold position bias := Nat.le_max_left ..
  have bounded : threshold position bias ≤ 26 :=
    Nat.max_le.2 ⟨by decide, Nat.min_le_left ..⟩
  have smaller := Nat.div_le_self (number - threshold position bias) (36 - threshold position bias)
  omega

/-- The progress of writing: the number gathered so far, the bias, and how many characters of the
label are written. -/
structure Writing where
  delta : Nat
  bias : Nat
  written : Nat
  digits : List Char

/-- This function passes one character while all characters equal to `code` are written.  It counts
smaller characters and writes the count at an equal one. -/
def pass (basic code : Nat) (writing : Writing) (character : Char) : Writing :=
  if character.toNat < code then { writing with delta := writing.delta + 1 }
  else if character.toNat = code then
    { delta := 0
      bias := adapt writing.delta (writing.written + 1) (writing.written == basic)
      written := writing.written + 1
      digits := writing.digits ++ writeNumber writing.bias writing.delta 36 }
  else writing

/-- This function writes the characters with the given codes, which increase from `next` on. -/
def writeCodes (label : List Char) (basic next : Nat) (writing : Writing) : List Nat → Writing
  | [] => writing
  | code :: others =>
    let skipped := { writing with
      delta := writing.delta + (code - next) * (writing.written + 1) }
    let passed := label.foldl (pass basic code) skipped
    writeCodes label basic (code + 1) { passed with delta := passed.delta + 1 } others

/-- This function inserts a code into an increasing list that may hold it already. -/
def insertCode (code : Nat) : List Nat → List Nat
  | [] => [code]
  | next :: rest =>
    if code < next then code :: next :: rest
    else if code = next then next :: rest
    else next :: insertCode code rest

/-- This function writes a label.  A hyphen ends the ASCII characters if there are any. -/
def encode (label : List Char) : List Char :=
  let basic := label.filter (·.toNat < 128)
  let codes := ((label.map Char.toNat).filter (128 ≤ ·)).foldr insertCode []
  let start : Writing := ⟨0, 72, basic.length, []⟩
  basic ++ (if basic.isEmpty then [] else ['-']) ++
    (writeCodes label basic.length 128 start codes).digits

/-- The progress of reading: the label so far, the last character inserted, the place after it, the
bias, and the number whose digits are being read with the weight and position of the next one. -/
structure Reading where
  label : List Char
  code : Nat
  place : Nat
  bias : Nat
  number : Nat
  weight : Nat
  position : Nat

/-- This function ends a number: it moves on by as many insertions as the number says and inserts
the character reached. -/
def Reading.insert? (reading : Reading) (number : Nat) : Option Reading :=
  let size := reading.label.length + 1
  let code := reading.code + (reading.place + number) / size
  let place := (reading.place + number) % size
  if code.isValidChar then
    some
      { label := reading.label.insertIdx place (Char.ofNat code)
        code := code
        place := place + 1
        bias := adapt number size (reading.place == 0)
        number := 0
        weight := 1
        position := 36 }
  else none

/-- This function reads one more digit. -/
def Reading.step? (reading : Reading) (character : Char) : Option Reading := do
  let value ← digitValue? character
  let number := reading.number + value * reading.weight
  let least := threshold reading.position reading.bias
  if value < least then reading.insert? number
  else
    some { reading with
      number := number
      weight := reading.weight * (36 - least)
      position := reading.position + 36 }

/-- This function reads the numbers that follow the ASCII characters.  The last number must be
complete. -/
def readNumbers (basic digits : List Char) : Option (List Char) := do
  let reading ← digits.foldlM Reading.step? ⟨basic, 128, 0, 72, 0, 1, 36⟩
  if reading.position = 36 then some reading.label else none

/-- This function reads a label.  The last hyphen, unless it is the first character, ends the ASCII
characters. -/
def decode? (written : List Char) : Option (List Char) :=
  let digits := (written.reverse.takeWhile (· != '-')).reverse
  let basic := (written.take (written.length - digits.length)).dropLast
  if digits.length = written.length then readNumbers [] written
  else if basic.isEmpty then none
  else readNumbers basic digits

end ConfinedHttp.Domain.Punycode
