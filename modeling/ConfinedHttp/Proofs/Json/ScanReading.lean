import ConfinedHttp.Json.Scan
import ConfinedHttp.Proofs.Text.Splitting
import ConfinedHttp.Proofs.Text.Utf8Reading

namespace ConfinedHttp

namespace Json

/-- A reader succeeds with a value and leaves the rest of its input. -/
def Takes {ε α : Type} {input : Bytes} (result : Except ε (Parsed α input)) (value : α)
    (rest : Bytes) : Prop :=
  ∃ parsed, result = .ok parsed ∧ parsed.value = value ∧ parsed.rest = rest

section Takes

variable {ε α β : Type} {input outer : Bytes} {result : Except ε (Parsed α input)} {value : α}
  {rest : Bytes}

theorem Takes.map (taken : Takes result value rest) (change : α → β) :
    Takes (result.map fun parsed => parsed.map change) (change value) rest := by
  obtain ⟨parsed, rfl, rfl, rfl⟩ := taken
  exact ⟨parsed.map change, rfl, rfl, rfl⟩

/-- What is left does not depend on where the input starts. -/
theorem Takes.widen (taken : Takes result value rest) (fits : input.length ≤ outer.length) :
    Takes (result.map fun parsed => parsed.widen fits) value rest := by
  obtain ⟨parsed, rfl, rfl, rfl⟩ := taken
  exact ⟨parsed.widen fits, rfl, rfl, rfl⟩

theorem Takes.widen_map (taken : Takes result value rest) (fits : input.length ≤ outer.length)
    (change : α → β) :
    Takes (result.map fun parsed => (parsed.widen fits).map change) (change value) rest := by
  obtain ⟨parsed, rfl, rfl, rfl⟩ := taken
  exact ⟨(parsed.widen fits).map change, rfl, rfl, rfl⟩

theorem Takes.mapError {ε' : Type} (taken : Takes result value rest) (blame : ε → ε') :
    Takes (result.mapError blame) value rest := by
  obtain ⟨parsed, rfl, rfl, rfl⟩ := taken
  exact ⟨parsed, rfl, rfl, rfl⟩

end Takes

section Strings

variable {code : Scanner Bytes} {value tail rest : Bytes}

theorem takes_scanStringBytes_quote (code : Scanner Bytes) (rest : Bytes) :
    Takes (scanStringBytes code (0x22 :: rest)) [] rest := by
  rw [scanStringBytes]
  exact ⟨_, rfl, rfl, rfl⟩

/-- An escape stands for its bytes. -/
theorem Takes.escaped {input first middle : Bytes}
    (escape : Takes (scanEscape code input) first middle)
    (taken : Takes (scanStringBytes code middle) value rest) :
    Takes (scanStringBytes code (0x5C :: input)) (first ++ value) rest := by
  obtain ⟨read, equal, rfl, rfl⟩ := escape
  rw [scanStringBytes, if_neg (by decide), if_pos rfl, equal]
  exact taken.widen_map _ _

/-- The bytes that stand for themselves inside a string. -/
def IsPlain (byte : UInt8) : Prop := byte ≠ 0x22 ∧ byte ≠ 0x5C ∧ ¬ byte < 0x20

theorem Takes.plain {bytes : Bytes} (plain : ∀ byte ∈ bytes, IsPlain byte)
    (taken : Takes (scanStringBytes code tail) value rest) :
    Takes (scanStringBytes code (bytes ++ tail)) (bytes ++ value) rest := by
  induction bytes with
  | nil => exact taken
  | cons byte others inductionHypothesis =>
    obtain ⟨⟨notQuote, notEscape, notControl⟩, plainOthers⟩ := List.forall_mem_cons.mp plain
    rw [List.cons_append, scanStringBytes, if_neg notQuote, if_neg notEscape, if_neg notControl]
    exact (inductionHypothesis plainOthers).widen_map _ _

/-- The byte of a hexadecimal digit is read as its value. -/
theorem hexValue_lowerHexDigit (value : Nat) (small : value < 16) :
    Ascii.hexValue? (Char.ofNat (UInt8.ofNat (Ascii.lowerHexDigit value).toNat).toNat) =
      some value := by
  revert value
  decide

/-- A character below 256 is read from the two digits of its code. -/
theorem takes_scanCode (character : Char) (small : character.toNat < 256) (tail : Bytes) :
    Takes (scanCode (0x30 :: 0x30 ::
        UInt8.ofNat (Ascii.lowerHexDigit (character.toNat / 16)).toNat ::
        UInt8.ofNat (Ascii.lowerHexDigit (character.toNat % 16)).toNat :: tail))
      (Utf8.encode [character]) tail := by
  have zero : Ascii.hexValue? (Char.ofNat (0x30 : UInt8).toNat) = some 0 := rfl
  have code : ((0 * 16 + 0) * 16 + character.toNat / 16) * 16 + character.toNat % 16 =
      character.toNat := by omega
  unfold scanCode scanHex
  simp only [zero, hexValue_lowerHexDigit (character.toNat / 16) (by omega),
    hexValue_lowerHexDigit (character.toNat % 16) (by omega), code, Except.bind, bind]
  rw [if_neg (by omega), if_neg (by omega)]
  exact ⟨_, rfl, by rw [Parsed.map, Char.ofNat_toNat], rfl⟩

/-- The marks that stand behind a backslash, each with the byte it stands for. -/
def marks : List (UInt8 × UInt8) :=
  [(0x22, 0x22), (0x5C, 0x5C), (0x6E, 0x0A), (0x72, 0x0D), (0x74, 0x09), (0x62, 0x08), (0x66, 0x0C)]

theorem takes_scanEscape_mark (mark byte : UInt8) (isMark : (mark, byte) ∈ marks) (tail : Bytes) :
    Takes (scanEscape code (mark :: tail)) [byte] tail := by
  simp only [marks, List.mem_cons, Prod.mk.injEq, List.not_mem_nil, or_false] at isMark
  obtain ⟨rfl, rfl⟩ | ⟨rfl, rfl⟩ | ⟨rfl, rfl⟩ | ⟨rfl, rfl⟩ | ⟨rfl, rfl⟩ | ⟨rfl, rfl⟩ |
    ⟨rfl, rfl⟩ := isMark <;> exact ⟨_, rfl, rfl, rfl⟩

/-- A character is written as a mark, with the digits of its code, or as it is. -/
theorem escape_cases (character : Char) :
    (∃ mark byte, (mark, byte) ∈ marks ∧ Utf8.encode (escape character) = [0x5C, mark] ∧
      Utf8.encode [character] = [byte]) ∨
    (character.toNat < 0x20 ∧ escape character =
      ['\\', 'u', '0', '0', Ascii.lowerHexDigit (character.toNat / 16),
        Ascii.lowerHexDigit (character.toNat % 16)]) ∨
    (escape character = [character] ∧ character ≠ '"' ∧ character ≠ '\\' ∧
      ¬ character.toNat < 0x20) := by
  unfold escape
  split_ifs with quote backslash newline carriage tab back feed control
  · subst quote
    exact .inl ⟨0x22, 0x22, by decide⟩
  · subst backslash
    exact .inl ⟨0x5C, 0x5C, by decide⟩
  · subst newline
    exact .inl ⟨0x6E, 0x0A, by decide⟩
  · subst carriage
    exact .inl ⟨0x72, 0x0D, by decide⟩
  · subst tab
    exact .inl ⟨0x74, 0x09, by decide⟩
  · subst back
    exact .inl ⟨0x62, 0x08, by decide⟩
  · subst feed
    exact .inl ⟨0x66, 0x0C, by decide⟩
  · exact .inr (.inl ⟨control, rfl⟩)
  · exact .inr (.inr ⟨rfl, quote, backslash, control⟩)

/-- The bytes of a character that is not escaped stand for themselves. -/
theorem isPlain_of_mem_utf8EncodeChar (character : Char) (notQuote : character ≠ '"')
    (notBackslash : character ≠ '\\') (notControl : ¬ character.toNat < 0x20) :
    ∀ byte ∈ String.utf8EncodeChar character, IsPlain byte := by
  intro byte inside
  have same := Utf8.toNat_of_mem_utf8EncodeChar character byte inside
  have ne (other : Char) (ascii : other.toNat < 128) (different : character ≠ other) :
      byte.toNat ≠ other.toNat := by
    intro equal
    exact different (Char.toNat_inj.mp (by rw [same (by omega), equal]))
  refine ⟨?_, ?_, ?_⟩
  · rintro rfl
    exact ne '"' (by decide) notQuote rfl
  · rintro rfl
    exact ne '\\' (by decide) notBackslash rfl
  · intro control
    have below : byte.toNat < 0x20 := UInt8.lt_iff_toNat_lt.mp control
    have code := same (by omega)
    omega

/-- A character is read from what is written for it. -/
theorem Takes.character (character : Char)
    (taken : Takes (scanStringBytes scanCode tail) value rest) :
    Takes (scanStringBytes scanCode (Utf8.encode (escape character) ++ tail))
      (Utf8.encode [character] ++ value) rest := by
  obtain ⟨mark, byte, isMark, written, stands⟩ | ⟨control, written⟩ |
    ⟨written, notQuote, notBackslash, notControl⟩ := escape_cases character
  · rw [written, stands]
    exact (takes_scanEscape_mark mark byte isMark tail).escaped taken
  · have ascii (digit : Nat) (small : digit < 16) : (Ascii.lowerHexDigit digit).toNat < 128 := by
      revert digit
      decide
    have high := ascii (character.toNat / 16) (by omega)
    have low := ascii (character.toNat % 16) (by omega)
    have read := takes_scanCode character (by omega) tail
    rw [written, Utf8.encode_of_ascii _ (by simp [high, low])]
    apply Takes.escaped ?_ taken
    exact read.widen _
  · rw [written, Utf8.encode_cons, Utf8.encode_nil, List.append_nil]
    exact taken.plain (isPlain_of_mem_utf8EncodeChar character notQuote notBackslash notControl)

/-- The bytes of a string are read up to its closing quote. -/
theorem takes_scanStringBytes (text : List Char) (rest : Bytes) :
    Takes (scanStringBytes scanCode (Utf8.encode (text.flatMap escape) ++ 0x22 :: rest))
      (Utf8.encode text) rest := by
  induction text with
  | nil => exact takes_scanStringBytes_quote scanCode rest
  | cons character others inductionHypothesis =>
    rw [List.flatMap_cons, Utf8.encode_append, List.append_assoc]
    have first := inductionHypothesis.character character
    rwa [← Utf8.encode_append] at first

theorem encode_writeString (text : String) (rest : Bytes) :
    Utf8.encode (writeString text) ++ rest =
      0x22 :: (Utf8.encode (text.toList.flatMap escape) ++ 0x22 :: rest) := by
  rw [writeString, Utf8.encode_append, List.append_assoc]
  rfl

/-- A string that was written in quotes is read behind the first one. -/
theorem takes_scanString (text : String) (rest : Bytes) :
    Takes (scanString (Utf8.encode (text.toList.flatMap escape) ++ 0x22 :: rest)) text rest := by
  obtain ⟨parsed, equal, bytes, behind⟩ := takes_scanStringBytes text.toList rest
  refine ⟨parsed.map fun _ => text, ?_, rfl, behind⟩
  rw [scanString, equal]
  simp only [Except.bind, bind, bytes, Utf8.decode_encode, String.ofList_toList]

end Strings

section Numbers

/-- The byte of a decimal digit. -/
def digitByte (digit : Nat) : UInt8 := UInt8.ofNat (0x30 + digit)

theorem toNat_digitByte (digit : Nat) (small : digit < 10) :
    (digitByte digit).toNat = 0x30 + digit := Utf8.toNat_ofNat_of_lt _ (by omega)

theorem isDigit_digitByte (digit : Nat) (small : digit < 10) : isDigit (digitByte digit) = true := by
  revert digit
  decide

/-- The digits of a number in decimal, the most significant first. -/
structure IsDecimal (digits : List Nat) (value : Nat) : Prop where
  small : ∀ digit ∈ digits, digit < 10
  notEmpty : digits ≠ []
  worth : Literal.ofDigits digits = value
  leading : digits.head? = some 0 → digits = [0]

theorem isDecimal_digit (digit : Nat) (small : digit < 10) : IsDecimal [digit] digit where
  small := by simpa using small
  notEmpty := by simp
  worth := by simp [Literal.ofDigits]
  leading zero := by
    rw [List.head?_cons, Option.some.injEq] at zero
    rw [zero]

/-- A digit behind the digits of a number that is not zero. -/
theorem IsDecimal.append {front : List Nat} {number : Nat} (isFront : IsDecimal front number)
    (notZero : number ≠ 0) (digit : Nat) (small : digit < 10) :
    IsDecimal (front ++ [digit]) (number * 10 + digit) where
  small := List.forall_mem_append.mpr ⟨isFront.small, by simpa using small⟩
  notEmpty := by simp
  worth := by
    have worth := isFront.worth
    rw [Literal.ofDigits] at worth ⊢
    rw [List.foldl_append, worth, List.foldl_cons, List.foldl_nil]
  leading zero := by
    rw [List.head?_append_of_ne_nil _ isFront.notEmpty] at zero
    have worth := isFront.worth
    rw [isFront.leading zero] at worth
    exact absurd worth.symm notZero

theorem encode_digitChar (digit : Nat) (small : digit < 10) :
    Utf8.encode [digit.digitChar] = [digitByte digit] := by
  revert digit
  decide

theorem exists_isDecimal (value : Nat) :
    ∃ digits, IsDecimal digits value ∧ Utf8.encode (Ascii.decimal value) = digits.map digitByte := by
  induction value using Nat.strongRecOn with
  | ind value inductionHypothesis =>
    rw [Ascii.decimal, Nat.toDigits_eq_if (by decide)]
    split
    case isTrue small =>
      exact ⟨[value], isDecimal_digit value small, encode_digitChar value small⟩
    case isFalse notSmall =>
      obtain ⟨front, isFront, written⟩ :=
        inductionHypothesis (value / 10) (Nat.div_lt_self (by omega) (by decide))
      have last := Nat.mod_lt value (y := 10) (by decide)
      have isDecimal := isFront.append (by omega) (value % 10) last
      rw [Nat.div_add_mod'] at isDecimal
      rw [Ascii.decimal] at written
      refine ⟨front ++ [value % 10], isDecimal, ?_⟩
      rw [Utf8.encode_append, written, encode_digitChar _ last, List.map_append, List.map_singleton]

/-- The text of a number starts with a digit. -/
theorem IsDecimal.exists_head {digits : List Nat} {number : Nat} (isDecimal : IsDecimal digits number) :
    ∃ byte tail, digits.map digitByte = byte :: tail ∧ isDigit byte = true := by
  cases digits with
  | nil => exact absurd rfl isDecimal.notEmpty
  | cons first others =>
    have small := isDecimal.small first List.mem_cons_self
    exact ⟨digitByte first, others.map digitByte, rfl, isDigit_digitByte first small⟩

/-- What follows a number does not continue it. -/
def EndsNumber (rest : Bytes) : Prop :=
  ∀ byte ∈ rest.head?, isDigit byte = false ∧ byte ≠ 0x2E ∧ byte ≠ 0x65 ∧ byte ≠ 0x45

variable {digits : List Nat} {number : Nat} {rest : Bytes}

theorem digitValues_map_digitByte (small : ∀ digit ∈ digits, digit < 10) :
    digitValues (digits.map digitByte) = digits := by
  rw [digitValues, List.map_map]
  have each : ∀ digit ∈ digits, ((fun byte => byte.toNat - 0x30) ∘ digitByte) digit = id digit := by
    intro digit inside
    rw [Function.comp_apply, toNat_digitByte digit (small digit inside)]
    exact Nat.add_sub_cancel_left ..
  rw [List.map_congr_left each, List.map_id]

/-- All digits are read, up to the first byte that is none. -/
theorem takes_scanDigits (atEnd : Category) (isDecimal : IsDecimal digits number)
    (ends : EndsNumber rest) : Takes (scanDigits atEnd (digits.map digitByte ++ rest)) digits rest := by
  have small := isDecimal.small
  have stops (byte : UInt8) (isNext : byte ∈ rest.head?) : isDigit byte = false := (ends byte isNext).1
  cases digits with
  | nil => exact absurd rfl isDecimal.notEmpty
  | cons first others =>
    obtain ⟨smallFirst, smallOthers⟩ := List.forall_mem_cons.mp small
    have cut := takeWhile_dropWhile_append isDigit (others.map digitByte) rest (by
      intro byte inside
      obtain ⟨digit, within, rfl⟩ := List.mem_map.mp inside
      exact isDigit_digitByte digit (smallOthers digit within)) stops
    rw [List.map_cons, List.cons_append, scanDigits, if_pos (isDigit_digitByte first smallFirst)]
    refine ⟨_, rfl, ?_, cut.2⟩
    rw [cut.1, ← List.map_cons]
    exact digitValues_map_digitByte small

theorem takes_scanWhole (atEnd : Category) (isDecimal : IsDecimal digits number)
    (ends : EndsNumber rest) : Takes (scanWhole atEnd (digits.map digitByte ++ rest)) digits rest := by
  obtain ⟨parsed, equal, read, behind⟩ := takes_scanDigits atEnd isDecimal ends
  refine ⟨parsed, ?_, read, behind⟩
  have single : ¬ (digits.head? = some 0 ∧ 1 < digits.length) := by
    rintro ⟨zero, long⟩
    rw [isDecimal.leading zero] at long
    exact absurd long (by decide)
  rw [scanWhole, equal]
  simp only [Except.bind, bind, read, if_neg single]

theorem scanFraction_of_ends (atEnd : Category) (ends : EndsNumber rest) :
    scanFraction atEnd rest = .ok (none, ⟨rest, Nat.le_refl _⟩) := by
  unfold scanFraction
  split
  case h_1 => exact absurd rfl (ends 0x2E rfl).2.1
  case h_2 => rfl

theorem scanExponent_of_ends (atEnd : Category) (ends : EndsNumber rest) :
    scanExponent atEnd rest = .ok (none, ⟨rest, Nat.le_refl _⟩) := by
  cases rest with
  | nil => rfl
  | cons mark others =>
    obtain ⟨-, -, notSmall, notLarge⟩ := ends mark rfl
    simp [scanExponent, notSmall, notLarge]

/-- A sign and digits are read as a number without a point and without a power of ten. -/
theorem takes_scanLiteral (atEnd : Category) (negative : Bool) (isDecimal : IsDecimal digits number)
    (ends : EndsNumber rest) :
    Takes (scanLiteral atEnd ((if negative then [0x2D] else []) ++ (digits.map digitByte ++ rest)))
      ⟨negative, digits, none, none⟩ rest := by
  have unsigned (input : Bytes) (behindSign : (if input.head? = some 0x2D then input.drop 1 else
      input) = digits.map digitByte ++ rest) :
      Takes (scanLiteral atEnd input) ⟨decide (input.head? = some 0x2D), digits, none, none⟩ rest := by
    have whole := takes_scanWhole atEnd isDecimal ends
    rw [← behindSign] at whole
    obtain ⟨parsed, equal, rfl, rfl⟩ := whole
    unfold scanLiteral
    simp only [equal, Except.bind, bind, scanFraction_of_ends atEnd ends,
      scanExponent_of_ends atEnd ends]
    exact ⟨_, rfl, rfl, rfl⟩
  cases negative with
  | true => exact unsigned _ rfl
  | false =>
    have digitFirst : (digits.map digitByte ++ rest).head? ≠ some 0x2D := by
      obtain ⟨byte, tail, written, isDigit⟩ := isDecimal.exists_head
      rw [written, List.cons_append, List.head?_cons, ne_eq, Option.some.injEq]
      rintro rfl
      exact absurd isDigit (by decide)
    have read := unsigned _ (if_neg digitFirst)
    rwa [decide_eq_false digitFirst] at read

namespace Literal

theorem le_foldl (digits : List Nat) (number : Nat) :
    number ≤ digits.foldl (fun number digit => number * 10 + digit) number := by
  induction digits generalizing number with
  | nil => exact Nat.le_refl _
  | cons digit others inductionHypothesis =>
    have later := inductionHypothesis (number * 10 + digit)
    rw [List.foldl_cons]
    omega

/-- Digits that fit 64 bits are all taken. -/
theorem absorb_of_fits (digits : List Nat) (number : Nat)
    (fits : digits.foldl (fun number digit => number * 10 + digit) number < wordSize) :
    absorb number digits = (digits.foldl (fun number digit => number * 10 + digit) number, []) := by
  induction digits generalizing number with
  | nil => rfl
  | cons digit others inductionHypothesis =>
    have later := le_foldl others (number * 10 + digit)
    rw [List.foldl_cons] at fits ⊢
    rw [absorb, if_pos (by omega), inductionHypothesis _ fits]

/-- The integers of 64 bits, with or without a sign. -/
def IsWord (value : Int) : Prop := -(signedSize : Int) ≤ value ∧ value < wordSize

instance (value : Int) : Decidable (IsWord value) := inferInstanceAs (Decidable (_ ∧ _))

/-- Digits without a point and a power of ten are an integer when it has 64 bits. -/
theorem value_of_isWord (value : Int) (isWord : IsWord value)
    (isDecimal : IsDecimal digits value.natAbs) :
    value? ⟨decide (value < 0), digits, none, none⟩ = some (.integer value) := by
  obtain ⟨low, high⟩ := isWord
  have smaller : (signedSize : Int) < wordSize := by decide
  have worth := isDecimal.worth
  have taken := absorb_of_fits digits 0 (by rw [← ofDigits, worth]; omega)
  rw [← ofDigits, worth] at taken
  have allowed : (decide (value < 0) = true → 0 < value.natAbs ∧ value.natAbs ≤ signedSize) := by
    intro negative
    rw [decide_eq_true_eq] at negative
    omega
  simp only [value?, taken, Option.isNone_none, List.isEmpty_nil, true_and, if_pos allowed]
  congr 2
  by_cases negative : value < 0
  · simp only [negative, decide_true, if_true]
    omega
  · simp only [negative, decide_false, Bool.false_eq_true, if_false]
    omega

end Literal

/-- An integer of 64 bits is read from its text. -/
theorem takes_scanNumber (value : Int) (isWord : Literal.IsWord value) (ends : EndsNumber rest) :
    Takes (scanNumber (Utf8.encode (Number.integer value).write ++ rest)) (.integer value) rest := by
  obtain ⟨digits, isDecimal, written⟩ := exists_isDecimal value.natAbs
  have text : Utf8.encode (Number.integer value).write ++ rest =
      (if decide (value < 0) then [0x2D] else []) ++ (digits.map digitByte ++ rest) := by
    rw [← written, Number.write.eq_1]
    by_cases negative : value < 0 <;> simp [negative, Utf8.encode_cons]
    rfl
  obtain ⟨parsed, equal, isLiteral, behind⟩ :=
    takes_scanLiteral .endOfText (decide (value < 0)) isDecimal ends
  have number := Literal.value_of_isWord value isWord isDecimal
  rw [text]
  refine ⟨parsed.map fun _ => .integer value, ?_, rfl, behind⟩
  unfold scanNumber
  simp only [equal, Except.bind, bind, isLiteral, number]

/-- An integer starts with its sign or a digit. -/
theorem exists_head_integer (value : Int) :
    ∃ byte tail, Utf8.encode (Number.integer value).write = byte :: tail ∧
      (byte = 0x2D ∨ isDigit byte = true) := by
  obtain ⟨digits, isDecimal, written⟩ := exists_isDecimal value.natAbs
  rw [Number.write.eq_1]
  split
  · rw [Utf8.encode_cons, written]
    exact ⟨0x2D, _, rfl, .inl rfl⟩
  · obtain ⟨byte, tail, isText, isDigit⟩ := isDecimal.exists_head
    exact ⟨byte, tail, written.trans isText, .inr isDigit⟩

end Numbers

end Json

end ConfinedHttp
