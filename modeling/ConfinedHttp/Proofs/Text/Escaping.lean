import ConfinedHttp.Text.Percent
import Mathlib

namespace ConfinedHttp

namespace Ascii

/-- A property of the ASCII characters can be checked code by code. -/
@[elab_as_elim]
theorem forall_of_forall_code {motive : Char → Prop}
    (each : ∀ code < 128, motive (Char.ofNat code)) (character : Char)
    (ascii : character.toNat < 128) : motive character := by
  rw [← Char.ofNat_toNat character]
  exact each character.toNat ascii

theorem toNat_lt_of_isAlpha (character : Char) (letter : character.isAlpha = true) :
    character.toNat < 128 := by
  simp only [Char.isAlpha, Char.isUpper, Char.isLower, Bool.or_eq_true, Bool.and_eq_true,
    decide_eq_true_eq, UInt32.le_iff_toNat_le, ge_iff_le] at letter
  change character.val.toNat < 128
  have upperEnd : ('Z' : Char).val.toNat = 90 := rfl
  have lowerEnd : ('z' : Char).val.toNat = 122 := rfl
  omega

theorem toNat_lt_of_isAlphanum (character : Char) (permitted : character.isAlphanum = true) :
    character.toNat < 128 := by
  rw [Char.isAlphanum, Bool.or_eq_true] at permitted
  obtain letter | digit := permitted
  · exact toNat_lt_of_isAlpha character letter
  · simp only [Char.isDigit, Bool.and_eq_true, decide_eq_true_eq, UInt32.le_iff_toNat_le] at digit
    have last : ('9' : Char).val.toNat = 57 := rfl
    change character.val.toNat < 128
    omega

end Ascii

namespace Utf8

@[simp] theorem encode_nil : encode [] = [] := rfl

@[simp] theorem encode_cons (character : Char) (text : List Char) :
    encode (character :: text) = String.utf8EncodeChar character ++ encode text := rfl

theorem utf8EncodeChar_of_ascii (character : Char) (ascii : character.toNat < 128) :
    String.utf8EncodeChar character = [UInt8.ofNat character.toNat] := by
  have small : character.val.toNat ≤ 0x7f := by
    have : character.toNat = character.val.toNat := rfl
    omega
  simp only [String.utf8EncodeChar, small, if_true]
  rfl

/-- A byte below 128 stands only for the character with its code. -/
theorem toNat_of_mem_utf8EncodeChar (character : Char) (byte : UInt8)
    (inside : byte ∈ String.utf8EncodeChar character) (ascii : byte.toNat < 128) :
    character.toNat = byte.toNat := by
  have code : character.toNat = character.val.toNat := rfl
  simp only [String.utf8EncodeChar] at inside
  -- beyond one byte, every lead and continuation byte is 128 or more
  split_ifs at inside
  all_goals
    simp only [List.mem_cons, List.not_mem_nil, or_false, ← UInt8.toNat_inj, UInt8.toNat_ofNat']
      at inside
    omega

theorem encode_of_ascii (text : List Char) (ascii : ∀ character ∈ text, character.toNat < 128) :
    encode text = text.map fun character => UInt8.ofNat character.toNat := by
  induction text with
  | nil => rfl
  | cons character rest inductionHypothesis =>
    rw [encode_cons, utf8EncodeChar_of_ascii character (ascii character (List.mem_cons_self ..)),
      inductionHypothesis fun other inside => ascii other (List.mem_cons_of_mem _ inside)]
    rfl

/-- A byte below 128 in the bytes of a text comes from a character of the text. -/
theorem mem_of_mem_encode (text : List Char) (byte : UInt8) (inside : byte ∈ encode text)
    (ascii : byte.toNat < 128) : Char.ofNat byte.toNat ∈ text := by
  obtain ⟨character, within, part⟩ := List.mem_flatMap.mp inside
  rw [← toNat_of_mem_utf8EncodeChar character byte part ascii, Char.ofNat_toNat]
  exact within

end Utf8

namespace Percent

/-- Every part of a URL has the controls and all bytes past ASCII escaped, and never the characters
that escapes are made of. -/
structure IsEscapeSet (escaped : UInt8 → Bool) : Prop where
  control : ∀ byte, isControl byte = true → escaped byte = true
  percent : escaped 0x25 = false
  digit : ∀ value < 16, escaped (UInt8.ofNat (Ascii.upperHexDigit value).toNat) = false

theorem isEscapeSet_inPath : IsEscapeSet inPath :=
  ⟨fun byte control => by simp [inPath, inFragment, control], by decide, by decide⟩

/-- Nothing in a text is left to escape. -/
def IsEscaped (escaped : UInt8 → Bool) (text : List Char) : Prop :=
  ∀ character ∈ text, character.toNat < 128 ∧ escaped (UInt8.ofNat character.toNat) = false

variable {escaped : UInt8 → Bool}

@[simp] theorem encode_nil : encode escaped [] = [] := rfl

theorem encode_cons (byte : UInt8) (bytes : Bytes) :
    encode escaped (byte :: bytes) =
      (if escaped byte then escape byte else [Char.ofNat byte.toNat]) ++ encode escaped bytes := rfl

/-- A byte that is not escaped is an ASCII character. -/
theorem toNat_lt_of_not_escaped (set : IsEscapeSet escaped) (byte : UInt8)
    (kept : escaped byte = false) : byte.toNat < 128 := by
  by_contra high
  have control : isControl byte = true := by
    simp only [isControl, Bool.or_eq_true, decide_eq_true_eq, UInt8.lt_iff_toNat_lt]
    right
    change 126 < byte.toNat
    omega
  simp [set.control byte control] at kept

/-- An encoded text holds the bytes that are not escaped, percent signs and digits. -/
theorem mem_encode (bytes : Bytes) (character : Char) (inside : character ∈ encode escaped bytes) :
    (∃ byte ∈ bytes, escaped byte = false ∧ character = Char.ofNat byte.toNat) ∨
      character = '%' ∨ ∃ value < 16, character = Ascii.upperHexDigit value := by
  obtain ⟨byte, within, part⟩ := List.mem_flatMap.mp inside
  have small := byte.toNat_lt
  split at part
  · simp only [escape, List.mem_cons, List.not_mem_nil, or_false] at part
    rcases part with sign | high | low
    · exact .inr (.inl sign)
    · exact .inr (.inr ⟨byte.toNat / 16, by omega, high⟩)
    · exact .inr (.inr ⟨byte.toNat % 16, by omega, low⟩)
  case isFalse kept =>
    exact .inl ⟨byte, within, by simpa using kept, List.mem_singleton.mp part⟩

theorem toNat_upperHexDigit_lt (value : Nat) (small : value < 16) :
    (Ascii.upperHexDigit value).toNat < 128 := by
  revert value
  decide

/-- Encoding leaves nothing to escape. -/
theorem isEscaped_encode (set : IsEscapeSet escaped) (bytes : Bytes) :
    IsEscaped escaped (encode escaped bytes) := by
  intro character inside
  obtain ⟨byte, -, kept, rfl⟩ | rfl | ⟨value, small, rfl⟩ := mem_encode bytes character inside
  · have ascii := toNat_lt_of_not_escaped set byte kept
    rw [Char.toNat_ofNat, if_pos (.inl (by omega))]
    exact ⟨ascii, by simpa using kept⟩
  · exact ⟨by decide, set.percent⟩
  · exact ⟨toNat_upperHexDigit_lt value small, set.digit value small⟩

/-- A text in which nothing is left to escape stays as it is. -/
theorem encode_of_isEscaped (text : List Char) (done : IsEscaped escaped text) :
    encode escaped (Utf8.encode text) = text := by
  rw [Utf8.encode_of_ascii text fun character inside => (done character inside).1, encode,
    List.flatMap_map]
  have each (character : Char) (inside : character ∈ text) :
      (if escaped (UInt8.ofNat character.toNat) then escape (UInt8.ofNat character.toNat)
        else [Char.ofNat (UInt8.ofNat character.toNat).toNat]) = [character] := by
    obtain ⟨ascii, kept⟩ := done character inside
    have byte : (UInt8.ofNat character.toNat).toNat = character.toNat := by
      rw [UInt8.toNat_ofNat']
      omega
    simp [kept, byte, Char.ofNat_toNat]
  rw [List.flatMap_congr each, List.flatMap_singleton']

/-- Encoding adds only percent signs and digits to the characters of a text. -/
theorem mem_of_mem_encode (set : IsEscapeSet escaped) (text : List Char) (character : Char)
    (inside : character ∈ encode escaped (Utf8.encode text)) (sign : character ≠ '%')
    (digit : ∀ value < 16, character ≠ Ascii.upperHexDigit value) : character ∈ text := by
  obtain ⟨byte, within, kept, rfl⟩ | equal | ⟨value, small, equal⟩ :=
    mem_encode (Utf8.encode text) character inside
  · exact Utf8.mem_of_mem_encode text byte within (toNat_lt_of_not_escaped set byte kept)
  · exact absurd equal sign
  · exact absurd equal (digit value small)

/-- The escape of a byte stands in the encoded text as a whole. -/
theorem escape_isInfix_encode (bytes : Bytes) (byte : UInt8) (inside : byte ∈ bytes)
    (isEscaped : escaped byte = true) : escape byte <:+: encode escaped bytes := by
  obtain ⟨before, after, rfl⟩ := List.append_of_mem inside
  exact ⟨encode escaped before, encode escaped after, by simp [encode, isEscaped]⟩

/-- A text whose encoded form shows no escape has nothing to escape. -/
theorem isEscaped_of_not_isInfix (set : IsEscapeSet escaped) (text : List Char)
    (plain : ∀ byte, escaped byte = true → ¬ escape byte <:+: encode escaped (Utf8.encode text)) :
    IsEscaped escaped text := by
  intro character inside
  obtain ⟨byte, part⟩ := List.exists_mem_of_ne_nil _ (String.utf8EncodeChar_ne_nil (c := character))
  have within : byte ∈ Utf8.encode text := List.mem_flatMap.mpr ⟨character, inside, part⟩
  have kept : escaped byte = false := by
    by_contra isEscaped
    have isEscaped : escaped byte = true := by simpa using isEscaped
    exact plain byte isEscaped (escape_isInfix_encode _ byte within isEscaped)
  have ascii := toNat_lt_of_not_escaped set byte kept
  have code := Utf8.toNat_of_mem_utf8EncodeChar character byte part ascii
  exact ⟨by omega, by simpa [code] using kept⟩

end Percent

end ConfinedHttp
