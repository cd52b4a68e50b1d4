import ConfinedHttp.Proofs.Text.Escaping

namespace ConfinedHttp

namespace Utf8

theorem toNat_ofNat_of_lt (code : Nat) (small : code < 256) : (UInt8.ofNat code).toNat = code := by
  rw [UInt8.toNat_ofNat']
  omega

theorem isContinuation_iff (byte : UInt8) :
    isContinuation byte = true ↔ 0x80 ≤ byte.toNat ∧ byte.toNat ≤ 0xBF := by
  simp [isContinuation, UInt8.le_iff_toNat_le]

/-- A continuation byte carries six bits. -/
theorem continuation_spec (bits : Nat) (small : bits < 64) :
    (UInt8.ofNat (bits + 128)).toNat = bits + 128 ∧
      isContinuation (UInt8.ofNat (bits + 128)) = true := by
  have code := toNat_ofNat_of_lt (bits + 128) (by omega)
  refine ⟨code, (isContinuation_iff _).mpr ?_⟩
  omega

/-- Behind some lead bytes, the second byte is bounded on one side. -/
theorem isSecond_of_bounds (lead second : UInt8) (continues : isContinuation second = true)
    (notShorter : lead.toNat = 0xE0 → 0xA0 ≤ second.toNat)
    (noSurrogate : lead.toNat = 0xED → second.toNat ≤ 0x9F)
    (alsoNotShorter : lead.toNat = 0xF0 → 0x90 ≤ second.toNat)
    (scalar : lead.toNat = 0xF4 → second.toNat ≤ 0x8F) : isSecond lead second = true := by
  have bounds := (isContinuation_iff second).mp continues
  rw [isSecond]
  simp only [← UInt8.toNat_inj, UInt8.le_iff_toNat_le, continues]
  split_ifs <;> simp at *
  all_goals omega

section Sequence

variable (lead : UInt8) (rest : Bytes)

/-- The lead byte of a longer sequence is not ASCII. -/
theorem not_ascii_of_le (above : 0x80 ≤ lead.toNat) : ¬ lead < 0x80 := by
  simp only [UInt8.lt_iff_toNat_lt, UInt8.reduceToNat]
  omega

/-- A lead byte is above the leads of shorter sequences. -/
theorem not_within_of_lt (low high : UInt8) (above : high.toNat < lead.toNat) :
    ¬ (low ≤ lead && lead ≤ high) = true := by
  simp only [Bool.and_eq_true, decide_eq_true_eq, UInt8.le_iff_toNat_le]
  omega

theorem sequence_of_one (bound : lead.toNat < 0x80) :
    sequence lead rest = (some (Char.ofNat lead.toNat), 0) := by
  have isOne : lead < 0x80 := UInt8.lt_iff_toNat_lt.mpr bound
  simp [sequence, isOne]

variable (second third fourth : UInt8)

theorem sequence_of_two (bounds : 0xC2 ≤ lead.toNat ∧ lead.toNat ≤ 0xDF)
    (continues : isContinuation second = true) :
    sequence lead (second :: rest) =
      (some (Char.ofNat (lead.toNat % 32 * 64 + second.toNat % 64)), 1) := by
  have notOne := not_ascii_of_le lead (by omega)
  have isTwo : (0xC2 ≤ lead && lead ≤ 0xDF) = true := by
    simpa [UInt8.le_iff_toNat_le] using bounds
  simp only [sequence, if_neg notOne, if_pos isTwo, if_pos continues]

theorem sequence_of_three (bounds : 0xE0 ≤ lead.toNat ∧ lead.toNat ≤ 0xEF)
    (fits : isSecond lead second = true) (continues : isContinuation third = true) :
    sequence lead (second :: third :: rest) =
      (some (Char.ofNat ((lead.toNat % 16 * 64 + second.toNat % 64) * 64 + third.toNat % 64)),
        2) := by
  have notOne := not_ascii_of_le lead (by omega)
  have notTwo := not_within_of_lt lead 0xC2 0xDF (Nat.lt_of_lt_of_le (by decide) bounds.1)
  have isThree : (0xE0 ≤ lead && lead ≤ 0xEF) = true := by
    simpa [UInt8.le_iff_toNat_le] using bounds
  simp only [sequence, if_neg notOne, if_neg notTwo, if_pos isThree, if_pos fits, if_pos continues]

theorem sequence_of_four (bounds : 0xF0 ≤ lead.toNat ∧ lead.toNat ≤ 0xF4)
    (fits : isSecond lead second = true) (continues : isContinuation third = true)
    (alsoContinues : isContinuation fourth = true) :
    sequence lead (second :: third :: fourth :: rest) =
      (some (Char.ofNat (((lead.toNat % 8 * 64 + second.toNat % 64) * 64 + third.toNat % 64) * 64 +
        fourth.toNat % 64)), 3) := by
  have notOne := not_ascii_of_le lead (by omega)
  have notTwo := not_within_of_lt lead 0xC2 0xDF (Nat.lt_of_lt_of_le (by decide) bounds.1)
  have notThree := not_within_of_lt lead 0xE0 0xEF (Nat.lt_of_lt_of_le (by decide) bounds.1)
  have isFour : (0xF0 ≤ lead && lead ≤ 0xF4) = true := by
    simpa [UInt8.le_iff_toNat_le] using bounds
  simp only [sequence, if_neg notOne, if_neg notTwo, if_neg notThree, if_pos isFour, if_pos fits,
    if_pos continues, if_pos alsoContinues]

end Sequence

/-- Reading a written character gives it back and takes no byte behind it. -/
theorem pieces_utf8EncodeChar_append (character : Char) (rest : Bytes) :
    pieces (String.utf8EncodeChar character ++ rest) = some character :: pieces rest := by
  have valid : character.toNat < 0xD800 ∨ 0xDFFF < character.toNat ∧ character.toNat < 0x110000 :=
    character.valid
  have same : character.val.toNat = character.toNat := rfl
  have back := Char.ofNat_toNat character
  simp only [String.utf8EncodeChar, same]
  generalize character.toNat = code at valid back
  obtain ⟨lastCode, lastContinues⟩ := continuation_spec (code % 64) (by omega)
  obtain ⟨middleCode, middleContinues⟩ := continuation_spec (code / 64 % 64) (by omega)
  obtain ⟨frontCode, frontContinues⟩ := continuation_spec (code / 4096 % 64) (by omega)
  split_ifs with one two three
  · have lead := toNat_ofNat_of_lt code (by omega)
    rw [List.singleton_append, pieces, sequence_of_one _ _ (by omega), lead, back]
    rfl
  · have lead := toNat_ofNat_of_lt (code / 64 % 32 + 192) (by omega)
    have whole : (code / 64 % 32 + 192) % 32 * 64 + (code % 64 + 128) % 64 = code := by omega
    rw [List.cons_append, List.singleton_append, pieces,
      sequence_of_two _ _ _ (by omega) lastContinues, lead, lastCode, whole, back]
    rfl
  · have lead := toNat_ofNat_of_lt (code / 4096 % 16 + 224) (by omega)
    have fits := isSecond_of_bounds (UInt8.ofNat (code / 4096 % 16 + 224)) _ middleContinues
      (by omega) (by omega) (by omega) (by omega)
    have whole : ((code / 4096 % 16 + 224) % 16 * 64 + (code / 64 % 64 + 128) % 64) * 64 +
        (code % 64 + 128) % 64 = code := by omega
    rw [List.cons_append, List.cons_append, List.singleton_append, pieces,
      sequence_of_three _ _ _ _ (by omega) fits lastContinues, lead, middleCode, lastCode, whole,
      back]
    rfl
  · have lead := toNat_ofNat_of_lt (code / 262144 % 8 + 240) (by omega)
    have fits := isSecond_of_bounds (UInt8.ofNat (code / 262144 % 8 + 240)) _ frontContinues
      (by omega) (by omega) (by omega) (by omega)
    have whole : (((code / 262144 % 8 + 240) % 8 * 64 + (code / 4096 % 64 + 128) % 64) * 64 +
        (code / 64 % 64 + 128) % 64) * 64 + (code % 64 + 128) % 64 = code := by omega
    rw [List.cons_append, List.cons_append, List.cons_append, List.singleton_append, pieces,
      sequence_of_four _ _ _ _ _ (by omega) fits middleContinues lastContinues, lead, frontCode,
      middleCode, lastCode, whole, back]
    rfl

theorem encode_append (front back : List Char) :
    encode (front ++ back) = encode front ++ encode back := by
  simp [encode]

/-- An ASCII mark between texts becomes one byte between their bytes. -/
theorem encode_intercalate (mark : Char) (ascii : mark.toNat < 128) (texts : List (List Char)) :
    encode ([mark].intercalate texts) =
      [UInt8.ofNat mark.toNat].intercalate (texts.map encode) := by
  induction texts with
  | nil => rfl
  | cons text rest inductionHypothesis =>
    cases rest with
    | nil => simp
    | cons next others =>
      have between : encode [mark] = [UInt8.ofNat mark.toNat] := by
        rw [encode_cons, utf8EncodeChar_of_ascii mark ascii]
        rfl
      simp only [List.map_cons, List.intercalate_cons_cons, encode_append, between] at *
      rw [inductionHypothesis]

/-- Reading written text gives its characters, none of them malformed. -/
theorem pieces_encode (text : List Char) : pieces (encode text) = text.map some := by
  induction text with
  | nil => simp [pieces]
  | cons character rest inductionHypothesis =>
    rw [encode_cons, pieces_utf8EncodeChar_append, inductionHypothesis, List.map_cons]

theorem decode_encode (text : List Char) : decode? (encode text) = some text := by
  rw [decode?, pieces_encode]
  induction text with
  | nil => rfl
  | cons character rest inductionHypothesis =>
    rw [List.map_cons, List.mapM_cons, inductionHypothesis]
    rfl

theorem decodeLossy_encode (text : List Char) : decodeLossy (encode text) = text := by
  simp [decodeLossy, pieces_encode]

end Utf8

theorem lossyText_textBytes (text : String) : lossyText (textBytes text) = text := by
  rw [lossyText, textBytes, Utf8.decodeLossy_encode, String.ofList_toList]

end ConfinedHttp
