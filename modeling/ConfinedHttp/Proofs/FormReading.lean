import ConfinedHttp.Proofs.Text.Splitting
import ConfinedHttp.Proofs.Text.Utf8Reading
import ConfinedHttp.Url.Query

namespace ConfinedHttp

/-- A property of the bytes can be checked byte by byte. -/
@[elab_as_elim]
theorem forall_byte_of_forall_code {motive : UInt8 → Prop}
    (each : ∀ code < 256, motive (UInt8.ofNat code)) (byte : UInt8) : motive byte := by
  rw [← UInt8.ofNat_toNat (x := byte)]
  exact each byte.toNat byte.toNat_lt

namespace Percent

/-- The digits of an escape are read back, and none of them is a mark of a form. -/
theorem digit_spec (value : Nat) (small : value < 16) :
    let byte := UInt8.ofNat (Ascii.upperHexDigit value).toNat
    Ascii.hexValue? (Char.ofNat byte.toNat) = some value ∧
      byte ≠ 0x2B ∧ byte ≠ 0x26 ∧ byte ≠ 0x3D := by
  revert value
  decide

/-- The bytes of an escape. -/
theorem encode_escape (byte : UInt8) :
    Utf8.encode (escape byte) =
      [0x25, UInt8.ofNat (Ascii.upperHexDigit (byte.toNat / 16)).toNat,
        UInt8.ofNat (Ascii.upperHexDigit (byte.toNat % 16)).toNat] := by
  have bound := byte.toNat_lt
  refine Utf8.encode_of_ascii _ fun character inside => ?_
  simp only [escape, List.mem_cons, List.not_mem_nil, or_false] at inside
  obtain rfl | rfl | rfl := inside
  · decide
  · exact toNat_upperHexDigit_lt _ (by omega)
  · exact toNat_upperHexDigit_lt _ (by omega)

theorem decode_cons_of_ne (byte : UInt8) (rest : Bytes) (noSign : byte ≠ 0x25) :
    decode (byte :: rest) = byte :: decode rest := by
  rw [decode.eq_def]
  split
  case h_1 equal => cases equal
  case h_2 equal => exact absurd (List.cons.inj equal).1 noSign
  case h_3 equal =>
    obtain ⟨rfl, rfl⟩ := List.cons.inj equal
    rfl

theorem decode_escape_append (byte : UInt8) (rest : Bytes) :
    decode (Utf8.encode (escape byte) ++ rest) = byte :: decode rest := by
  have bound := byte.toNat_lt
  obtain ⟨high, -⟩ := digit_spec (byte.toNat / 16) (by omega)
  obtain ⟨low, -⟩ := digit_spec (byte.toNat % 16) (by omega)
  have whole : byte.toNat / 16 * 16 + byte.toNat % 16 = byte.toNat := by omega
  rw [encode_escape, List.cons_append, List.cons_append, List.singleton_append, decode]
  simp only [high, low, whole, UInt8.ofNat_toNat]

end Percent

namespace Form

/-- A byte that stands for itself is in ASCII and is no mark of a form or of an escape. -/
theorem plain_spec (byte : UInt8) (plain : isPlain byte = true) :
    byte.toNat < 128 ∧ byte ≠ 0x25 ∧ byte ≠ 0x2B ∧ byte ≠ 0x26 ∧ byte ≠ 0x3D := by
  revert plain
  induction byte using forall_byte_of_forall_code with
  | each code small =>
    revert code
    decide +kernel

/-- A byte as a form sends it. -/
theorem encode_encodeByte (byte : UInt8) :
    Utf8.encode (encodeByte byte) =
      if isPlain byte then [byte]
      else if byte = 0x20 then [0x2B]
      else Utf8.encode (Percent.escape byte) := by
  rw [encodeByte]
  split
  case isTrue plain =>
    have ascii := (plain_spec byte plain).1
    have code : (Char.ofNat byte.toNat).toNat = byte.toNat := by
      rw [Char.toNat_ofNat, if_pos (.inl (by omega))]
    rw [Utf8.encode_cons, Utf8.utf8EncodeChar_of_ascii _ (by omega), code, UInt8.ofNat_toNat]
    rfl
  case isFalse =>
    split
    · rfl
    · rfl

/-- No byte becomes a mark between keys and values or between pairs. -/
theorem not_mark_of_mem_encodeByte (byte : UInt8) :
    ∀ sent ∈ Utf8.encode (encodeByte byte), sent ≠ 0x26 ∧ sent ≠ 0x3D := by
  intro sent inside
  have bound := byte.toNat_lt
  rw [encode_encodeByte] at inside
  split at inside
  case isTrue plain =>
    obtain rfl := List.mem_singleton.mp inside
    exact (plain_spec sent plain).2.2.2
  case isFalse =>
    split at inside
    · obtain rfl := List.mem_singleton.mp inside
      decide
    · rw [Percent.encode_escape] at inside
      simp only [List.mem_cons, List.not_mem_nil, or_false] at inside
      obtain rfl | rfl | rfl := inside
      · decide
      · exact (Percent.digit_spec (byte.toNat / 16) (by omega)).2.2
      · exact (Percent.digit_spec (byte.toNat % 16) (by omega)).2.2

/-- A plus sign stands for a space. -/
def spaced (bytes : Bytes) : Bytes := bytes.map fun byte => if byte = 0x2B then 0x20 else byte

theorem decodeText_eq (bytes : Bytes) :
    decodeText bytes = lossyText (Percent.decode (spaced bytes)) := rfl

theorem spaced_append (first second : Bytes) :
    spaced (first ++ second) = spaced first ++ spaced second := List.map_append

theorem spaced_eq_self (bytes : Bytes) (noPlus : ∀ byte ∈ bytes, byte ≠ 0x2B) :
    spaced bytes = bytes := by
  rw [spaced]
  conv_rhs => rw [← List.map_id bytes]
  exact List.map_congr_left fun byte inside => if_neg (noPlus byte inside)

/-- A byte that was sent is read back, whatever stands behind it. -/
theorem decode_encodeByte_append (byte : UInt8) (rest : Bytes) :
    Percent.decode (spaced (Utf8.encode (encodeByte byte)) ++ rest) =
      byte :: Percent.decode rest := by
  have bound := byte.toNat_lt
  rw [encode_encodeByte]
  split
  case isTrue plain =>
    obtain ⟨-, noSign, noPlus, -⟩ := plain_spec byte plain
    rw [spaced_eq_self _ (by simpa using noPlus), List.singleton_append,
      Percent.decode_cons_of_ne byte rest noSign]
  case isFalse =>
    split
    case isTrue isSpace =>
      rw [isSpace]
      exact Percent.decode_cons_of_ne 0x20 rest (by decide)
    case isFalse =>
      rw [spaced_eq_self, Percent.decode_escape_append]
      rw [Percent.encode_escape]
      intro sent inside
      simp only [List.mem_cons, List.not_mem_nil, or_false] at inside
      obtain rfl | rfl | rfl := inside
      · decide
      · exact (Percent.digit_spec (byte.toNat / 16) (by omega)).2.1
      · exact (Percent.digit_spec (byte.toNat % 16) (by omega)).2.1

/-- The bytes of an encoded text, as they are sent. -/
theorem encode_encodeText (text : String) :
    Utf8.encode (encodeText text) =
      (textBytes text).flatMap fun byte => Utf8.encode (encodeByte byte) := by
  rw [encodeText, Utf8.encode, List.flatMap_assoc]
  rfl

/-- Bytes that were sent are read back. -/
theorem decode_flatMap_encodeByte (bytes : Bytes) :
    Percent.decode (spaced (bytes.flatMap fun byte => Utf8.encode (encodeByte byte))) = bytes := by
  induction bytes with
  | nil => rfl
  | cons byte rest inductionHypothesis =>
    rw [List.flatMap_cons, spaced_append, decode_encodeByte_append, inductionHypothesis]

/-- A key or a value that was sent is read back. -/
theorem decodeText_encodeText (text : String) :
    decodeText (Utf8.encode (encodeText text)) = text := by
  rw [decodeText_eq, encode_encodeText, decode_flatMap_encodeByte, lossyText_textBytes]

/-- No text holds a mark between keys and values or between pairs once it is encoded. -/
theorem not_mark_of_mem_encodeText (text : String) :
    ∀ sent ∈ Utf8.encode (encodeText text), sent ≠ 0x26 ∧ sent ≠ 0x3D := by
  intro sent inside
  rw [encode_encodeText] at inside
  obtain ⟨byte, -, part⟩ := List.mem_flatMap.mp inside
  exact not_mark_of_mem_encodeByte byte sent part

/-- The bytes of an encoded pair, with the equals sign between its parts. -/
theorem encode_encodePair (pair : String × String) :
    Utf8.encode (encodePair pair) =
      Utf8.encode (encodeText pair.1) ++ 0x3D :: Utf8.encode (encodeText pair.2) := by
  rw [encodePair, Utf8.encode_append]
  rfl

/-- A pair that was sent is read back. -/
theorem decodePair_encodePair (pair : String × String) :
    decodePair (Utf8.encode (encodePair pair)) = pair := by
  have clean : ∀ byte ∈ Utf8.encode (encodeText pair.1), (byte != 0x3D) = true := by
    intro byte inside
    simpa using (not_mark_of_mem_encodeText pair.1 byte inside).2
  rw [encode_encodePair, decodePair, List.takeWhile_append_of_pos clean,
    List.dropWhile_append_of_pos clean]
  simp [decodeText_encodeText]

/-- A pair that was sent is not empty and holds no mark between pairs. -/
theorem encodePair_spec (pair : String × String) :
    Utf8.encode (encodePair pair) ≠ [] ∧
      ∀ byte ∈ Utf8.encode (encodePair pair), (byte == 0x26) = false := by
  rw [encode_encodePair]
  refine ⟨by simp, fun byte inside => ?_⟩
  obtain key | mark | value := by simpa using inside
  · simpa using (not_mark_of_mem_encodeText pair.1 byte key).1
  · rw [mark]
    rfl
  · simpa using (not_mark_of_mem_encodeText pair.2 byte value).1

/-- Pairs that were sent are read back in order. -/
theorem decode_encode (pairs : List (String × String)) :
    decode (Utf8.encode (encode pairs)) = pairs := by
  rw [encode, Utf8.encode_intercalate '&' (by decide), List.map_map]
  cases pairs with
  | nil => rfl
  | cons first rest =>
    have cut := splitAt_intercalate (· == 0x26) (UInt8.ofNat '&'.toNat)
      ((first :: rest).map (Utf8.encode ∘ encodePair)) rfl (by simp)
      (by
        simp only [List.mem_map, forall_exists_index, and_imp, forall_apply_eq_imp_iff₂]
        exact fun pair _ => (encodePair_spec pair).2)
    rw [decode, cut, List.filter_eq_self.mpr, List.map_map]
    · exact List.map_id'' (fun pair => decodePair_encodePair pair) (first :: rest)
    · simp only [List.mem_map, forall_exists_index, and_imp, forall_apply_eq_imp_iff₂]
      intro pair _
      simpa using (encodePair_spec pair).1

/-- An ampersand starts a new pair, whatever stands before it. -/
theorem decode_append_cons (front back : Bytes) :
    decode (front ++ 0x26 :: back) = decode front ++ decode back := by
  rw [decode, splitAt_append_cons _ _ _ _ rfl, List.filter_append, List.map_append]
  rfl

end Form

namespace Url

/-- What stands before pairs that are added to a URL: its own query and an ampersand, unless the
query is empty. -/
def beforePairs (url : Url) : List Char :=
  let own := (url.query.getD "").toList
  if own = [] then [] else own ++ ['&']

theorem query_appendPairs (url : Url) (pairs : List (String × String)) :
    (url.appendPairs pairs).query =
      some (String.ofList (url.beforePairs ++ Form.encode pairs)) := by
  cases own : url.query with
  | none => simp [appendPairs, beforePairs, own]
  | some query => simp [appendPairs, beforePairs, own]

/-- Pairs added to a URL are read behind the pairs of its own query. -/
theorem queryPairs_appendPairs (url : Url) (pairs : List (String × String)) :
    (url.appendPairs pairs).queryPairs = url.queryPairs ++ pairs := by
  rw [queryPairs, query_appendPairs, Option.getD_some, textBytes, String.toList_ofList,
    Utf8.encode_append, beforePairs, queryPairs, textBytes]
  split
  case isTrue bare =>
    rw [bare]
    exact Form.decode_encode pairs
  case isFalse =>
    have mark : Utf8.encode ['&'] = [0x26] := rfl
    rw [Utf8.encode_append, mark, List.append_assoc, List.singleton_append,
      Form.decode_append_cons, Form.decode_encode]

end Url

end ConfinedHttp
