import ConfinedHttp.Multidict.Json
import ConfinedHttp.Proofs.Json.MemberLookup
import ConfinedHttp.Proofs.Json.ReaderAgreement

/-!
Pairs are read from JSON in two ways: a decoder reads them from a text, and a converter takes them from
a value.  Both undo the writer, and they agree on every list.
-/

namespace ConfinedHttp

namespace Json

/-- The members of an object that is read from a text increase. -/
theorem increasing_of_document (text : Bytes) (members : List (String × Value))
    (read : Decoder.any.document text = .ok (.object members)) : Increasing members := by
  obtain ⟨rest, taken, -⟩ := (document_eq_ok_iff Decoder.any text _).mp read
  obtain ⟨byte, tail, -, ⟨-, _, -, impossible⟩ | ⟨-, entries, -, equal⟩ | ⟨-, -, other⟩⟩ :=
    takes_decodeWith_iff.mp taken
  · cases impossible
  · rw [← Value.object.inj equal]
    exact increasing_members entries
  · exact absurd rfl ((not_opened_of_scanValue other).2 members)

end Json

section Conversion

variable {ε α β : Type} {convert : α → Except ε β} {image : β → α}

/-- Where each result comes from one part, the results come from one list of parts. -/
theorem mapM_eq_ok_iff (inverse : ∀ part result, convert part = .ok result ↔ part = image result)
    (parts : List α) (results : List β) :
    parts.mapM convert = .ok results ↔ parts = results.map image := by
  induction parts generalizing results with
  | nil => cases results <;> simp [pure, Except.pure]
  | cons part others inductionHypothesis =>
    rw [List.mapM_cons]
    constructor
    · intro equal
      cases first : convert part with
      | error failure =>
        rw [first] at equal
        cases equal
      | ok result =>
        cases rest : others.mapM convert with
        | error failure =>
          rw [first, rest] at equal
          cases equal
        | ok later =>
          rw [first, rest] at equal
          obtain rfl := Except.ok.inj equal
          rw [(inverse part result).mp first, (inductionHypothesis later).mp rest]
          rfl
    · intro same
      cases results with
      | nil => cases same
      | cons result later =>
        obtain ⟨isImage, areImages⟩ := List.cons.inj same
        rw [(inverse part result).mpr isImage, (inductionHypothesis later).mpr areImages]
        rfl

/-- A failure of a list is the failure of one of its parts. -/
theorem exists_of_mapM_error {parts : List α} {failure : ε}
    (fails : parts.mapM convert = .error failure) : ∃ part ∈ parts, convert part = .error failure := by
  induction parts with
  | nil => cases fails
  | cons part others inductionHypothesis =>
    rw [List.mapM_cons] at fails
    cases first : convert part with
    | error other =>
      rw [first] at fails
      obtain rfl := Except.error.inj fails
      exact ⟨part, List.mem_cons_self, first⟩
    | ok result =>
      rw [first] at fails
      cases rest : others.mapM convert with
      | error other =>
        rw [rest] at fails
        obtain rfl := Except.error.inj fails
        obtain ⟨found, inside, equal⟩ := inductionHypothesis rest
        exact ⟨found, List.mem_cons_of_mem _ inside, equal⟩
      | ok results =>
        rw [rest] at fails
        cases fails

/-- A list with an unsuitable part anywhere fails as its parts do, and no other list fails. -/
theorem mapM_error_iff (inverse : ∀ part result, convert part = .ok result ↔ part = image result)
    {report : String → ε}
    (reports : ∀ part failure, convert part = .error failure → ∃ reason, failure = report reason)
    (parts : List α) :
    (∃ reason, parts.mapM convert = .error (report reason)) ↔
      ∃ part ∈ parts, ∀ result, part ≠ image result := by
  constructor
  · rintro ⟨reason, fails⟩
    obtain ⟨part, inside, failed⟩ := exists_of_mapM_error fails
    refine ⟨part, inside, fun result same => ?_⟩
    rw [(inverse part result).mpr same] at failed
    cases failed
  · rintro ⟨part, inside, unsuitable⟩
    cases converted : parts.mapM convert with
    | error failure =>
      obtain ⟨first, -, failed⟩ := exists_of_mapM_error converted
      obtain ⟨reason, rfl⟩ := reports first failure failed
      exact ⟨reason, rfl⟩
    | ok results =>
      rw [mapM_eq_ok_iff inverse] at converted
      rw [converted] at inside
      obtain ⟨result, -, same⟩ := List.mem_map.mp inside
      exact absurd same.symm (unsuitable result)

end Conversion

namespace Multidict

open Json

/-- The item of a list that stands for a pair. -/
def itemOf (pair : String × String) : Value := .array [.string pair.1, .string pair.2]

/-- The member of an object that stands for a pair. -/
def memberOf (pair : String × String) : String × Value := (pair.1, .string pair.2)

theorem toJson_eq (dict : Multidict) : dict.toJson = .array (dict.pairs.map itemOf) := rfl

theorem pairOfItem_eq_ok_iff (item : Value) (pair : String × String) :
    pairOfItem item = .ok pair ↔ item = itemOf pair := by
  constructor
  · intro equal
    unfold pairOfItem at equal
    split at equal
    case h_1 =>
      obtain rfl := Except.ok.inj equal
      rfl
    all_goals cases equal
  · rintro rfl
    rfl

theorem pairOfItem_error (item : Value) (failure : InputError)
    (fails : pairOfItem item = .error failure) : ∃ reason, failure = .unsupportedShape reason := by
  unfold pairOfItem at fails
  split at fails
  case h_1 => cases fails
  all_goals exact ⟨_, (Except.error.inj fails).symm⟩

theorem pairOfMember_eq_ok_iff (member : String × Value) (pair : String × String) :
    pairOfMember member = .ok pair ↔ member = memberOf pair := by
  obtain ⟨key, value⟩ := member
  cases value with
  | string text => simp [pairOfMember, memberOf, Prod.ext_iff]
  | _ => simp [pairOfMember, memberOf]

theorem pairOfMember_error (member : String × Value) (failure : InputError)
    (fails : pairOfMember member = .error failure) :
    ∃ reason, failure = .unsupportedShape reason := by
  unfold pairOfMember at fails
  split at fails
  case h_1 => cases fails
  case h_2 => exact ⟨_, (Except.error.inj fails).symm⟩

theorem map_mk_eq_ok_iff (pairs : Except InputError (List (String × String))) (dict : Multidict) :
    pairs.map Multidict.mk = .ok dict ↔ pairs = .ok dict.pairs := by
  cases pairs with
  | error failure => simp [Except.map]
  | ok pairs =>
    constructor
    · intro equal
      rw [← Except.ok.inj equal]
    · intro equal
      rw [Except.ok.inj equal]
      rfl

theorem map_mk_eq_error_iff (pairs : Except InputError (List (String × String)))
    (failure : InputError) : pairs.map Multidict.mk = .error failure ↔ pairs = .error failure := by
  cases pairs <;> simp [Except.map]

/-- The converter takes pairs from a list exactly when it is the list that is written for them. -/
theorem ofJson_array_eq_ok_iff (items : List Value) (dict : Multidict) :
    ofJson (.array items) = .ok dict ↔ items = dict.pairs.map itemOf := by
  rw [ofJson, map_mk_eq_ok_iff, mapM_eq_ok_iff pairOfItem_eq_ok_iff]

/-- The converter takes pairs from an object exactly when its members are the pairs. -/
theorem ofJson_object_eq_ok_iff (members : List (String × Value)) (dict : Multidict) :
    ofJson (.object members) = .ok dict ↔ members = dict.pairs.map memberOf := by
  rw [ofJson, map_mk_eq_ok_iff, mapM_eq_ok_iff pairOfMember_eq_ok_iff]

/-- The decoder reads pairs exactly where any value is read as what is written for them. -/
theorem takes_decoder_iff {input rest : Bytes} (dict : Multidict) :
    Takes (decoder input) dict rest ↔ Takes (Decoder.any input) dict.toJson rest := by
  have pairs : Takes (Decoder.list Decoder.textPair input) dict.pairs rest ↔
      Takes (Decoder.any input) (.array (dict.pairs.map itemOf)) rest :=
    takes_list_image_iff (fun _ pair _ => takes_textPair_image_iff pair) dict.pairs
  rw [decoder, Decoder.map, takes_map_iff]
  constructor
  · rintro ⟨_, taken, rfl⟩
    exact pairs.mp taken
  · intro taken
    exact ⟨dict.pairs, pairs.mpr taken, rfl⟩

/-- A document holds pairs for the decoder exactly when it holds what is written for them. -/
theorem document_decoder_iff (text : Bytes) (dict : Multidict) :
    decoder.document text = .ok dict ↔ Decoder.any.document text = .ok dict.toJson := by
  simp only [document_eq_ok_iff, takes_decoder_iff]

theorem isTextual_toJson (dict : Multidict) : dict.toJson.IsTextual := by
  refine .array _ fun item inside => ?_
  obtain ⟨pair, -, rfl⟩ := List.mem_map.mp inside
  exact .array _ (by simp [Value.IsTextual.string])

theorem fits_toJson (dict : Multidict) : dict.toJson.Fits greatestDepth := by
  refine .array _ fun item inside => ?_
  obtain ⟨pair, -, rfl⟩ := List.mem_map.mp inside
  exact .array _ (by simp [Value.Fits.scalar, Value.IsScalar.string])

/-- A text that is written for a value holds pairs only when the value is what is written for them. -/
theorem document_decoder_text_iff (value : Value) (dict : Multidict) :
    decoder.document (textBytes value.text) = .ok dict ↔ value = dict.toJson := by
  rw [document_decoder_iff]
  constructor
  · intro read
    obtain ⟨rest, taken, -⟩ := (document_eq_ok_iff Decoder.any _ _).mp read
    rw [textBytes_text, ← List.append_nil (Utf8.encode _)] at taken
    exact (written_of_takes_textual (isTextual_toJson dict) greatestDepth value [] rest taken).1
  · rintro rfl
    exact document_text dict.toJson (fits_toJson dict)

/-- Members of strings only are those of pairs. -/
theorem exists_map_memberOf_iff (members : List (String × Value)) :
    (∃ pairs : List (String × String), members = pairs.map memberOf) ↔
      ∀ member ∈ members, ∃ text, member.2 = .string text := by
  constructor
  · rintro ⟨pairs, rfl⟩ member inside
    obtain ⟨pair, -, rfl⟩ := List.mem_map.mp inside
    exact ⟨pair.2, rfl⟩
  · intro each
    induction members with
    | nil => exact ⟨[], rfl⟩
    | cons member others inductionHypothesis =>
      obtain ⟨⟨text, isText⟩, eachOther⟩ := List.forall_mem_cons.mp each
      obtain ⟨pairs, rfl⟩ := inductionHypothesis eachOther
      refine ⟨(member.1, text) :: pairs, ?_⟩
      rw [List.map_cons, memberOf, ← isText]

theorem ne_memberOf_iff (member : String × Value) :
    (∀ pair, member ≠ memberOf pair) ↔ ∀ text, member.2 ≠ .string text := by
  constructor
  · intro different text isText
    exact different (member.1, text) (Prod.ext rfl isText)
  · rintro different pair rfl
    exact different pair.2 rfl

theorem increasing_map_memberOf_iff (pairs : List (String × String)) :
    Increasing (pairs.map memberOf) ↔ Increasing pairs := List.pairwise_map

/-- The decoder and the converter both undo the writer.  On every list they agree, be it read from any
text or written as its own.  The converter takes an object exactly when all its members are strings,
and gives one pair for each key, in the order of their bytes.  It makes nothing of `null`.  Every other
value is reported, and so is a list or an object with an unsuitable part, wherever it stands. -/
theorem readers_agree :
    (∀ dict : Multidict,
      decoder.document (textBytes dict.toJson.text) = .ok dict ∧
        ∃ value, Decoder.any.document (textBytes dict.toJson.text) = .ok value ∧
          ofJson value = .ok dict) ∧
    (∀ (text : Bytes) (dict : Multidict),
      decoder.document text = .ok dict ↔
        ∃ items, Decoder.any.document text = .ok (.array items) ∧
          ofJson (.array items) = .ok dict) ∧
    (∀ (items : List Value) (dict : Multidict),
      decoder.document (textBytes (Value.array items).text) = .ok dict ↔
        ofJson (.array items) = .ok dict) ∧
    ofJson .null = .ok empty ∧
    (∀ members : List (String × Value),
      ((∃ dict, ofJson (.object members) = .ok dict) ↔
        ∀ member ∈ members, ∃ text, member.2 = .string text) ∧
      ∀ dict, ofJson (.object members) = .ok dict →
        members = dict.pairs.map (fun pair => (pair.1, .string pair.2)) ∧
          (Increasing members → Increasing dict.pairs)) ∧
    (∀ (text : Bytes) (members : List (String × Value)),
      Decoder.any.document text = .ok (.object members) → Increasing members) ∧
    (∀ items : List Value,
      (∃ reason, ofJson (.array items) = .error (.unsupportedShape reason)) ↔
        ∃ item ∈ items, ∀ key text, item ≠ .array [.string key, .string text]) ∧
    (∀ members : List (String × Value),
      (∃ reason, ofJson (.object members) = .error (.unsupportedShape reason)) ↔
        ∃ member ∈ members, ∀ text, member.2 ≠ .string text) ∧
    (∀ value : Value, value ≠ .null → (∀ members, value ≠ .object members) →
      (∀ items, value ≠ .array items) →
        ∃ reason, ofJson value = .error (.unsupportedShape reason)) := by
  have lists (items : List Value) (dict : Multidict) :
      ofJson (.array items) = .ok dict ↔ Value.array items = dict.toJson := by
    rw [ofJson_array_eq_ok_iff, toJson_eq, Value.array.injEq]
  refine ⟨?inverse, ?texts, ?values, rfl, ?objects, increasing_of_document, ?unsuitableItem,
    ?unsuitableMember, ?others⟩
  case inverse =>
    intro dict
    exact ⟨(document_decoder_text_iff _ dict).mpr rfl, dict.toJson,
      document_text _ (fits_toJson dict), (lists _ dict).mpr rfl⟩
  case texts =>
    intro text dict
    rw [document_decoder_iff]
    constructor
    · intro read
      exact ⟨_, read, (lists _ dict).mpr rfl⟩
    · rintro ⟨items, read, converted⟩
      rw [read, (lists items dict).mp converted]
  case values =>
    intro items dict
    rw [document_decoder_text_iff, lists]
  case objects =>
    intro members
    refine ⟨?_, fun dict converted => ?_⟩
    · rw [← exists_map_memberOf_iff]
      constructor
      · rintro ⟨dict, converted⟩
        exact ⟨dict.pairs, (ofJson_object_eq_ok_iff members dict).mp converted⟩
      · rintro ⟨pairs, same⟩
        exact ⟨⟨pairs⟩, (ofJson_object_eq_ok_iff members ⟨pairs⟩).mpr same⟩
    · have same := (ofJson_object_eq_ok_iff members dict).mp converted
      refine ⟨same, fun increasing => ?_⟩
      rw [same] at increasing
      exact (increasing_map_memberOf_iff dict.pairs).mp increasing
  case unsuitableItem =>
    intro items
    have reported := mapM_error_iff pairOfItem_eq_ok_iff pairOfItem_error items
    simp only [ofJson, map_mk_eq_error_iff, reported, Prod.forall, itemOf]
  case unsuitableMember =>
    intro members
    have reported := mapM_error_iff pairOfMember_eq_ok_iff pairOfMember_error members
    simp only [ofJson, map_mk_eq_error_iff, reported, ne_memberOf_iff]
  case others =>
    intro value notNull notObject notArray
    cases value with
    | null => exact absurd rfl notNull
    | object members => exact absurd rfl (notObject members)
    | array items => exact absurd rfl (notArray items)
    | _ => exact ⟨_, rfl⟩

/-- An object is read from its text and converted, and a list that holds a number is reported. -/
theorem readers_agree_object :
    let members : List (String × Value) := [("a", .string "2"), ("b", .string "1")]
    Decoder.any.document (textBytes (Value.object members).text) = .ok (.object members) ∧
      ofJson (.object members) = .ok ⟨[("a", "2"), ("b", "1")]⟩ ∧
      Increasing [("a", "2"), ("b", "1")] ∧
      (∃ reason, ofJson (.array [itemOf ("a", "2"), .number (.integer 1)]) =
        .error (.unsupportedShape reason)) ∧
      ∃ reason, ofJson (.bool true) = .error (.unsupportedShape reason) := by
  intro members
  have fits : (Value.object members).Fits greatestDepth := by
    refine .object members (by decide) fun member inside => ?_
    simp only [members, List.mem_cons, List.not_mem_nil, or_false] at inside
    obtain rfl | rfl := inside
    all_goals exact .scalar _ (.string _)
  have read := document_text _ fits
  have converted : ofJson (.object members) = .ok ⟨[("a", "2"), ("b", "1")]⟩ := rfl
  obtain ⟨-, -, -, -, objects, ordered, lists, -, others⟩ := readers_agree
  refine ⟨read, converted, ((objects members).2 _ converted).2 (ordered _ _ read),
    (lists _).mpr ⟨.number (.integer 1), by simp, ?_⟩, others _ ?_ ?_ ?_⟩
  all_goals simp

end Multidict

end ConfinedHttp
