import ConfinedHttp.Multidict
import ConfinedHttp.Proofs.FormReading

namespace ConfinedHttp

namespace Form

/-- The digits of an escape are written with capital letters. -/
def IsEscapeDigit (digit : Char) : Prop := '0' ≤ digit ∧ digit ≤ '9' ∨ 'A' ≤ digit ∧ digit ≤ 'F'

/-- The characters that stand for themselves. -/
def StandsForItself (character : Char) : Prop :=
  character.isAlphanum = true ∨ character ∈ ['*', '-', '.', '_']

/-- A key or a value as it is sent: characters that stand for themselves, plus signs and escapes. -/
inductive IsEncoded : List Char → Prop
  | nil : IsEncoded []
  | plain (character : Char) (rest : List Char) (plain : StandsForItself character)
    (encoded : IsEncoded rest) : IsEncoded (character :: rest)
  | space (rest : List Char) (encoded : IsEncoded rest) : IsEncoded ('+' :: rest)
  | escape (high low : Char) (rest : List Char) (isHigh : IsEscapeDigit high)
    (isLow : IsEscapeDigit low) (encoded : IsEncoded rest) : IsEncoded ('%' :: high :: low :: rest)

/-- A key and a value as they are sent, with one equals sign between them. -/
def IsEncodedPair (text : List Char) : Prop :=
  ∃ key value, IsEncoded key ∧ IsEncoded value ∧ text = key ++ '=' :: value

/-- So many pairs as they are sent, with one ampersand between any two that follow each other. -/
structure IsQuery (size : Nat) (text : List Char) : Prop where
  written : ∃ parts : List (List Char), parts.length = size ∧ (∀ part ∈ parts, IsEncodedPair part) ∧
    text = ['&'].intercalate parts
  equalsSigns : text.count '=' = size
  ampersands : text.count '&' = size - 1

theorem isEscapeDigit_upperHexDigit (value : Nat) (small : value < 16) :
    IsEscapeDigit (Ascii.upperHexDigit value) := by
  unfold IsEscapeDigit
  revert value
  decide

theorem standsForItself_of_isPlain (byte : UInt8) (plain : isPlain byte = true) :
    StandsForItself (Char.ofNat byte.toNat) := by
  rw [isPlain, Bool.or_eq_true] at plain
  exact plain.imp_right fun isMark => by simpa [Percent.isOneOf] using isMark

/-- The characters of a byte go before an encoded text. -/
theorem IsEncoded.encodeByte_append (byte : UInt8) {rest : List Char} (encoded : IsEncoded rest) :
    IsEncoded (encodeByte byte ++ rest) := by
  have bound := byte.toNat_lt
  unfold encodeByte
  split
  case isTrue plain => exact .plain _ _ (standsForItself_of_isPlain byte plain) encoded
  case isFalse =>
    split
    · exact .space _ encoded
    · exact .escape _ _ _ (isEscapeDigit_upperHexDigit (byte.toNat / 16) (by omega))
        (isEscapeDigit_upperHexDigit (byte.toNat % 16) (by omega)) encoded

theorem isEncoded_encodeText (text : String) : IsEncoded (encodeText text) := by
  have each (bytes : Bytes) : IsEncoded (bytes.flatMap encodeByte) := by
    induction bytes with
    | nil => exact .nil
    | cons byte rest inductionHypothesis => exact inductionHypothesis.encodeByte_append byte
  exact each (textBytes text)

/-- No mark of a query stands for itself, and none is a digit of an escape. -/
theorem ne_mark (mark character : Char) (isMark : mark = '=' ∨ mark = '&')
    (permitted : StandsForItself character ∨ IsEscapeDigit character) : character ≠ mark := by
  rintro rfl
  obtain rfl | rfl := isMark
  all_goals
    revert permitted
    unfold StandsForItself IsEscapeDigit
    decide

/-- An encoded text holds no mark of a query. -/
theorem IsEncoded.count_mark {text : List Char} (encoded : IsEncoded text) (mark : Char)
    (isMark : mark = '=' ∨ mark = '&') : text.count mark = 0 := by
  induction encoded with
  | nil => rfl
  | plain character rest plain _ inductionHypothesis =>
    rw [List.count_cons_of_ne (ne_mark mark character isMark (.inl plain)), inductionHypothesis]
  | space rest _ inductionHypothesis =>
    have different : '+' ≠ mark := by
      obtain rfl | rfl := isMark <;> decide
    rw [List.count_cons_of_ne different, inductionHypothesis]
  | escape high low rest isHigh isLow _ inductionHypothesis =>
    have different : '%' ≠ mark := by
      obtain rfl | rfl := isMark <;> decide
    rw [List.count_cons_of_ne different,
      List.count_cons_of_ne (ne_mark mark high isMark (.inr isHigh)),
      List.count_cons_of_ne (ne_mark mark low isMark (.inr isLow)), inductionHypothesis]

theorem isEncodedPair_encodePair (pair : String × String) : IsEncodedPair (encodePair pair) :=
  ⟨_, _, isEncoded_encodeText pair.1, isEncoded_encodeText pair.2, rfl⟩

/-- A pair holds one equals sign and no ampersand. -/
theorem IsEncodedPair.count_mark {text : List Char} (encoded : IsEncodedPair text) :
    text.count '=' = 1 ∧ text.count '&' = 0 := by
  obtain ⟨key, value, isKey, isValue, rfl⟩ := encoded
  constructor
  · rw [List.count_append, List.count_cons_self, isKey.count_mark _ (.inl rfl),
      isValue.count_mark _ (.inl rfl)]
  · rw [List.count_append, List.count_cons_of_ne (by decide), isKey.count_mark _ (.inr rfl),
      isValue.count_mark _ (.inr rfl)]

/-- Pairs are written as a query. -/
theorem isQuery_encode (pairs : List (String × String)) : IsQuery pairs.length (encode pairs) := by
  have each : ∀ part ∈ pairs.map encodePair, IsEncodedPair part := by
    simp only [List.mem_map, forall_exists_index, and_imp, forall_apply_eq_imp_iff₂]
    exact fun pair _ => isEncodedPair_encodePair pair
  -- Every pair holds a mark equally often, and so only the marks between pairs remain to be counted.
  have counts (item : Char) (times : Nat)
      (same : ∀ part, IsEncodedPair part → part.count item = times) :
      ((pairs.map encodePair).map (·.count item)).sum = pairs.length * times := by
    have constant : (pairs.map encodePair).map (·.count item) =
        List.replicate pairs.length times := by
      rw [List.map_map, ← List.map_const']
      exact List.map_congr_left fun pair _ => same _ (isEncodedPair_encodePair pair)
    rw [constant, List.sum_replicate, smul_eq_mul]
  refine ⟨⟨pairs.map encodePair, List.length_map .., each, rfl⟩, ?_, ?_⟩
  · rw [encode, count_intercalate, counts '=' 1 fun _ encoded => encoded.count_mark.1]
    simp
  · rw [encode, count_intercalate, counts '&' 0 fun _ encoded => encoded.count_mark.2]
    simp

/-- Two lists of pairs, neither of them empty, are written with an ampersand between them. -/
theorem encode_append (front back : List (String × String)) (someFront : front ≠ [])
    (someBack : back ≠ []) : encode (front ++ back) = encode front ++ '&' :: encode back := by
  rw [encode, List.map_append, intercalate_append _ _ _ (by simpa using someFront)
    (by simpa using someBack), List.append_assoc]
  rfl

end Form

namespace Multidict

@[simp] theorem toList_queryString (dict : Multidict) :
    dict.queryString.toList = Form.encode dict.pairs := by
  rw [queryString, String.toList_ofList]

/-- What is read from a query string are the pairs that were written. -/
theorem decode_queryString (dict : Multidict) :
    Form.decode (textBytes dict.queryString) = dict.pairs := by
  rw [textBytes, toList_queryString, Form.decode_encode]

/-- A query string is read back as the pairs that it was written for, in order.  It is made of
encoded keys and values, with one equals sign in each pair and one ampersand between pairs.  So it is
the query string of no other pairs, and pairs that stand behind others are written behind them. -/
theorem queryString_invertible (dict : Multidict) :
    Form.decode (textBytes dict.queryString) = dict.pairs ∧
      Form.IsQuery dict.size dict.queryString.toList ∧
      (∀ other : Multidict, other ≠ dict → other.queryString ≠ dict.queryString) ∧
      ∀ other : Multidict, dict.isEmpty = false → other.isEmpty = false →
        (dict.extend other.pairs).queryString =
          dict.queryString ++ "&" ++ other.queryString := by
  refine ⟨dict.decode_queryString, ?_, fun other different same => ?_,
    fun other some someOther => ?_⟩
  · rw [toList_queryString]
    exact Form.isQuery_encode dict.pairs
  · have pairs : other.pairs = dict.pairs := by
      rw [← other.decode_queryString, same, dict.decode_queryString]
    exact different (congrArg Multidict.mk pairs)
  · have written := Form.encode_append dict.pairs other.pairs (by simpa [isEmpty] using some)
      (by simpa [isEmpty] using someOther)
    apply String.toList_injective
    rw [String.toList_append, String.toList_append, toList_queryString, toList_queryString,
      toList_queryString, extend, written]
    simp

/-- The pair of two empty texts is not mistaken for no pair. -/
theorem queryString_invertible_empty_pair :
    let blank : Multidict := ⟨[("", "")]⟩
    let marked : Multidict := ⟨[("a&b", "ü + 1%"), ("", "")]⟩
    Multidict.empty ≠ blank ∧ Multidict.empty.queryString ≠ blank.queryString ∧
      blank.isEmpty = false ∧ marked.isEmpty = false ∧
      (blank.extend marked.pairs).queryString = "=&a%26b=%C3%BC+%2B+1%25&=" ∧
      Form.decode (textBytes "=&a%26b=%C3%BC+%2B+1%25&=") =
        [("", ""), ("a&b", "ü + 1%"), ("", "")] := by
  intro blank marked
  have different : Multidict.empty ≠ blank := by decide
  have joined : (blank.extend marked.pairs).queryString = "=&a%26b=%C3%BC+%2B+1%25&=" := by
    rw [(queryString_invertible blank).2.2.2 marked rfl rfl]
    decide +kernel
  refine ⟨different, (queryString_invertible blank).2.2.1 _ different, rfl, rfl, joined, ?_⟩
  rw [← joined]
  exact (queryString_invertible (blank.extend marked.pairs)).1

end Multidict

end ConfinedHttp
