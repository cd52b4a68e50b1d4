import ConfinedHttp.Json.Failure
import ConfinedHttp.Json.Value

/-!
Scanning the bytes of a JSON text: blanks, words, strings and numbers.  Every scanner returns the
bytes behind what it read, and they are fewer than it was given.
-/

namespace ConfinedHttp.Json

/-- What was read at the start of an input, and the input behind it. -/
structure Parsed (α : Type) (input : Bytes) where
  value : α
  rest : Bytes
  shorter : rest.length < input.length

/-- A scanner reads something at the start of an input or tells what is wrong with it. -/
abbrev Scanner (α : Type) := (input : Bytes) → Except Category (Parsed α input)

namespace Parsed

/-- This function sees a result from a longer input. -/
def widen {α : Type} {inner input : Bytes} (parsed : Parsed α inner)
    (fits : inner.length ≤ input.length) : Parsed α input :=
  ⟨parsed.value, parsed.rest, Nat.lt_of_lt_of_le parsed.shorter fits⟩

/-- This function sees a result from one byte earlier. -/
def behind {α : Type} {input : Bytes} (byte : UInt8) (parsed : Parsed α input) :
    Parsed α (byte :: input) := parsed.widen (Nat.le_succ _)

/-- This function takes what is left behind one byte as the rest. -/
def ofBehind {α : Type} {input : Bytes} (byte : UInt8) (value : α)
    (rest : { rest : Bytes // rest.length ≤ input.length }) : Parsed α (byte :: input) :=
  ⟨value, rest.val, Nat.lt_succ_of_le rest.property⟩

def map {α β : Type} {input : Bytes} (change : α → β) (parsed : Parsed α input) : Parsed β input :=
  ⟨change parsed.value, parsed.rest, parsed.shorter⟩

end Parsed

/-- The blanks between tokens are the space and three controls. -/
def isGap (byte : UInt8) : Bool := byte == 0x20 || byte == 0x09 || byte == 0x0A || byte == 0x0D

def skipGap (input : Bytes) : Bytes := input.dropWhile isGap

theorem length_dropWhile_le {α : Type} (keeps : α → Bool) (items : List α) :
    (items.dropWhile keeps).length ≤ items.length :=
  (List.dropWhile_suffix keeps).length_le

theorem length_skipGap_le (input : Bytes) : (skipGap input).length ≤ input.length :=
  length_dropWhile_le isGap input

/-- This function reads the rest of a word byte by byte. -/
def scanWord (word : Bytes) : (input : Bytes) → Except Category { rest : Bytes // rest.length ≤ input.length }
  | [] => if word.isEmpty then .ok ⟨[], Nat.le_refl _⟩ else .error .endOfText
  | byte :: input =>
    match word with
    | [] => .ok ⟨byte :: input, Nat.le_refl _⟩
    | expected :: word =>
      if byte = expected then
        (scanWord word input).map fun rest => ⟨rest.val, Nat.le_succ_of_le rest.property⟩
      else .error .malformed

/-- This function reads four hexadecimal digits. -/
def scanHex : Scanner Nat
  | first :: second :: third :: fourth :: rest =>
    match Ascii.hexValue? (Char.ofNat first.toNat), Ascii.hexValue? (Char.ofNat second.toNat),
      Ascii.hexValue? (Char.ofNat third.toNat), Ascii.hexValue? (Char.ofNat fourth.toNat) with
    | some a, some b, some c, some d =>
      .ok ⟨((a * 16 + b) * 16 + c) * 16 + d, rest, by simp only [List.length_cons]; omega⟩
    | _, _, _, _ => .error .malformed
  | _ => .error .endOfText

/-- This function reads the second half of a pair of surrogates. -/
def scanLowSurrogate (high : Nat) : Scanner Nat
  | 0x5C :: 0x75 :: rest => do
    let low ← scanHex rest
    if 0xDC00 ≤ low.value ∧ low.value ≤ 0xDFFF then
      .ok ⟨0x10000 + (high - 0xD800) * 0x400 + (low.value - 0xDC00), low.rest,
        by have := low.shorter; simp only [List.length_cons]; omega⟩
    else .error .malformed
  | [] => .error .endOfText
  | [0x5C] => .error .endOfText
  | _ => .error .malformed

/-- This function reads the digits of an escaped character.  Half a pair of surrogates stands for
no character. -/
def scanCode : Scanner Bytes := fun input => do
  let code ← scanHex input
  if 0xDC00 ≤ code.value ∧ code.value ≤ 0xDFFF then .error .malformed
  else if 0xD800 ≤ code.value ∧ code.value ≤ 0xDBFF then
    let pair ← scanLowSurrogate code.value code.rest
    .ok ((pair.widen (Nat.le_of_lt code.shorter)).map fun code => Utf8.encode [Char.ofNat code])
  else .ok (code.map fun code => Utf8.encode [Char.ofNat code])

/-- This function reads what a backslash stands before. -/
def scanEscape (code : Scanner Bytes) : Scanner Bytes
  | [] => .error .endOfText
  | byte :: rest =>
    let plain (value : UInt8) : Except Category (Parsed Bytes (byte :: rest)) :=
      .ok ⟨[value], rest, Nat.lt_succ_self _⟩
    if byte = 0x22 ∨ byte = 0x5C ∨ byte = 0x2F then plain byte
    else if byte = 0x62 then plain 0x08
    else if byte = 0x66 then plain 0x0C
    else if byte = 0x6E then plain 0x0A
    else if byte = 0x72 then plain 0x0D
    else if byte = 0x74 then plain 0x09
    else if byte = 0x75 then (code rest).map (·.behind byte)
    else .error .malformed

/-- This function reads the bytes of a string up to its closing quote, which it takes too. -/
def scanStringBytes (code : Scanner Bytes) : Scanner Bytes
  | [] => .error .endOfText
  | byte :: rest =>
    if byte = 0x22 then .ok ⟨[], rest, Nat.lt_succ_self _⟩
    else if byte = 0x5C then
      match scanEscape code rest with
      | .error category => .error category
      | .ok escaped =>
        have := escaped.shorter
        (scanStringBytes code escaped.rest).map fun parsed =>
          (parsed.widen (by simp only [List.length_cons]; omega)).map (escaped.value ++ ·)
    else if byte < 0x20 then .error .malformed
    else
      (scanStringBytes code rest).map fun parsed =>
        (parsed.behind byte).map (byte :: ·)
termination_by input => input.length
decreasing_by all_goals simp only [List.length_cons]; omega

/-- This function reads a string behind its opening quote. -/
def scanString : Scanner String := fun input => do
  let bytes ← scanStringBytes scanCode input
  match Utf8.decode? bytes.value with
  | some text => .ok (bytes.map fun _ => String.ofList text)
  | none => .error .malformed

/-- This function passes over a string behind its opening quote.  It does not look at what bytes
and escapes stand for. -/
def skipString : Scanner Unit := fun input =>
  (scanStringBytes (fun input => (scanHex input).map (·.map fun _ => [])) input).map
    (·.map fun _ => ())

/-- The parts of a written number. -/
structure Literal where
  negative : Bool
  whole : List Nat
  fraction : Option (List Nat)
  exponent : Option (Bool × List Nat)

def isDigit (byte : UInt8) : Bool := 0x30 ≤ byte && byte ≤ 0x39

def digitValues (digits : Bytes) : List Nat := digits.map fun digit => digit.toNat - 0x30

/-- This function reads one or more digits. -/
def scanDigits (atEnd : Category) : Scanner (List Nat)
  | [] => .error atEnd
  | first :: rest =>
    if isDigit first then
      .ok ⟨digitValues (first :: rest.takeWhile isDigit), rest.dropWhile isDigit,
        Nat.lt_succ_of_le (length_dropWhile_le isDigit rest)⟩
    else .error .malformed

/-- This function reads the digits before the point.  A zero at their start stands alone. -/
def scanWhole (atEnd : Category) : Scanner (List Nat) := fun input => do
  let digits ← scanDigits atEnd input
  if digits.value.head? = some 0 ∧ 1 < digits.value.length then .error .malformed else .ok digits

/-- This function reads the digits behind the point if there is one. -/
def scanFraction (atEnd : Category) (input : Bytes) :
    Except Category (Option (List Nat) × { rest : Bytes // rest.length ≤ input.length }) :=
  match input with
  | 0x2E :: rest => do
    let digits ← scanDigits atEnd rest
    .ok (some digits.value, ⟨digits.rest, Nat.le_succ_of_le (Nat.le_of_lt digits.shorter)⟩)
  | other => .ok (none, ⟨other, Nat.le_refl _⟩)

/-- This function reads the power of ten if there is one. -/
def scanExponent (atEnd : Category) (input : Bytes) :
    Except Category (Option (Bool × List Nat) × { rest : Bytes // rest.length ≤ input.length }) :=
  match input with
  | [] => .ok (none, ⟨[], Nat.le_refl _⟩)
  | mark :: rest =>
    if mark = 0x65 ∨ mark = 0x45 then
      match rest with
      | sign :: digits =>
        if sign = 0x2B ∨ sign = 0x2D then do
          let read ← scanDigits atEnd digits
          .ok (some (sign == 0x2D, read.value),
            ⟨read.rest, by have := read.shorter; simp only [List.length_cons]; omega⟩)
        else do
          let read ← scanDigits atEnd (sign :: digits)
          .ok (some (false, read.value),
            ⟨read.rest, by have := read.shorter; simp only [List.length_cons] at this ⊢; omega⟩)
      | [] => .error atEnd
    else .ok (none, ⟨mark :: rest, Nat.le_refl _⟩)

/-- This function reads a number.  The category says what an end inside the number counts as. -/
def scanLiteral (atEnd : Category) : Scanner Literal := fun input => do
  let negative := input.head? = some 0x2D
  let unsigned : { rest : Bytes // rest.length ≤ input.length } :=
    ⟨if negative then input.drop 1 else input, by split <;> simp⟩
  let whole ← scanWhole atEnd unsigned.val
  let (fraction, behindFraction) ← scanFraction atEnd whole.rest
  let (exponent, behindExponent) ← scanExponent atEnd behindFraction.val
  .ok ⟨⟨negative, whole.value, fraction, exponent⟩, behindExponent.val, by
    have := unsigned.property
    have := whole.shorter
    have := behindFraction.property
    have := behindExponent.property
    omega⟩

namespace Literal

/-- Two to the power of 64: the least number that does not fit 64 bits. -/
def wordSize : Nat := 18446744073709551616

/-- Two to the power of 63: the size of the least integer of 64 bits with a sign. -/
def signedSize : Nat := 9223372036854775808

/-- This function takes digits into a number as long as it fits 64 bits.  It returns the digits
left over. -/
def absorb (number : Nat) : List Nat → Nat × List Nat
  | [] => (number, [])
  | digit :: rest =>
    if number * 10 + digit < wordSize then absorb (number * 10 + digit) rest
    else (number, digit :: rest)

def ofDigits (digits : List Nat) : Nat := digits.foldl (fun number digit => number * 10 + digit) 0

/-- This function gives a power of ten as a binary number. -/
def powerOfTen (exponent : Nat) : Binary64 :=
  (Binary64.ofNat? (Nat.pow 10 exponent)).getD Binary64.zero

/-- This function divides by a power of ten, in steps of the greatest one that a binary number
holds.  Nothing is left after four steps. -/
def divideByTens : Nat → Binary64 → Nat → Binary64
  | 0, _, _ => Binary64.zero
  | steps + 1, number, exponent =>
    if exponent ≤ 308 then (number.divSize? (powerOfTen exponent)).getD Binary64.zero
    else
      divideByTens steps ((number.divSize? (powerOfTen 308)).getD Binary64.zero) (exponent - 308)

/-- This function multiplies a number of 64 bits by a power of ten.  There is no result past the
greatest binary number. -/
def scale? (significand : Nat) (exponent : Int) : Option Binary64 :=
  match Binary64.ofNat? significand with
  | none => none
  | some number =>
    if exponent < 0 then some (divideByTens 5 number exponent.natAbs)
    else if number.isZero then some number
    else if exponent ≤ 308 then number.mulSize? (powerOfTen exponent.toNat)
    else none

/-- This function gives the value of a written number.  Without a point and a power of ten it is an
integer if it fits 64 bits.  Digits past 64 bits only move the point. -/
def value? (literal : Literal) : Option Number :=
  let (whole, left) := absorb 0 literal.whole
  let signed (number : Binary64) : Number := .real (if literal.negative then number.neg else number)
  if literal.fraction.isNone ∧ literal.exponent.isNone ∧ left.isEmpty ∧
      (literal.negative → 0 < whole ∧ whole ≤ signedSize) then
    some (.integer (if literal.negative then -whole else whole))
  else
    let fraction := literal.fraction.getD []
    let (significand, dropped) := absorb whole fraction
    let moved : Int := (left.length : Int) - (fraction.length - dropped.length : Nat)
    let exponent : Int := match literal.exponent with
      | some (true, digits) => -(ofDigits digits : Int)
      | some (false, digits) => ofDigits digits
      | none => 0
    (scale? significand (moved + exponent)).map signed

end Literal

/-- This function reads the value of a number. -/
def scanNumber : Scanner Number := fun input => do
  let literal ← scanLiteral .endOfText input
  match literal.value.value? with
  | some number => .ok (literal.map fun _ => number)
  | none => .error .malformed

end ConfinedHttp.Json
