import ConfinedHttp.Proofs.Json.ValueReading
import ConfinedHttp.Request
import ConfinedHttp.Response

namespace ConfinedHttp

namespace Json

theorem isGap_iff (byte : UInt8) : isGap byte = true ↔ byte ∈ [0x20, 0x09, 0x0A, 0x0D] := by
  simp [isGap, or_assoc]

theorem isEmpty_skipGap_iff (rest : Bytes) :
    (skipGap rest).isEmpty = true ↔ ∀ byte ∈ rest, isGap byte = true := by
  rw [skipGap, List.isEmpty_iff, List.dropWhile_eq_nil_iff]

/-- Blanks do not continue a number. -/
theorem endsNumber_of_blank (rest : Bytes) (blank : ∀ byte ∈ rest, isGap byte = true) :
    EndsNumber rest := by
  intro byte isFirst
  have gap := blank byte (List.mem_of_mem_head? isFirst)
  rw [isGap_iff] at gap
  simp only [List.mem_cons, List.not_mem_nil, or_false] at gap
  obtain rfl | rfl | rfl | rfl := gap
  all_goals decide

theorem Takes.decodeValue_append {depth : Nat} {input rest : Bytes} {value : Value}
    (before : Bytes) (blank : ∀ byte ∈ before, isGap byte = true)
    (taken : Takes (decodeValue depth input) value rest) :
    Takes (decodeValue depth (before ++ input)) value rest := by
  cases depth <;> rw [decodeValue, decodeWith] at taken ⊢
  all_goals exact taken.atToken_append before blank

/-- Only blanks may stand behind the value of a body. -/
theorem Takes.decodeBody {α : Type} {decoder : Decoder α} {input rest : Bytes} {value : α}
    (taken : Takes (decoder input) value rest) (status : Nat) :
    decodeBody status decoder input =
      if (skipGap rest).isEmpty then .ok value else .error (.trailingData (some status)) := by
  obtain ⟨parsed, equal, rfl, rfl⟩ := taken
  rw [ConfinedHttp.decodeBody, equal]

end Json

namespace Request

open Json

/-- A JSON value with at most 127 lists and objects around any value inside can be sent, and the body
is read as the value, whatever blanks stand around it.  If anything else stands behind it, it is
reported, with the status of the response.  Behind a number, it could belong to the number. -/
theorem decodeBody_withJsonBody (request : Request) (status : Nat) (value : Value)
    (fits : value.Fits 127) :
    ∃ after body, request.withJsonBody value = .ok after ∧ after.body = some body ∧
      (∀ before behind : Bytes,
        (∀ byte ∈ before, byte ∈ [0x20, 0x09, 0x0A, 0x0D]) →
        (∀ byte ∈ behind, byte ∈ [0x20, 0x09, 0x0A, 0x0D]) →
        decodeBody status Decoder.any (before ++ body ++ behind) = .ok value) ∧
      ((∀ number, value ≠ .number number) → ∀ behind : Bytes,
        (∃ byte ∈ behind, byte ∉ [0x20, 0x09, 0x0A, 0x0D]) →
        decodeBody status Decoder.any (body ++ behind) = .error (.trailingData (some status))) := by
  have reads := (reads_decodeValue 127 value fits).2
  simp only [← isGap_iff]
  refine ⟨_, Utf8.encode value.write, rfl, rfl, ?_, ?_⟩
  · intro before behind blankBefore blankBehind
    have read := reads behind fun _ _ => endsNumber_of_blank behind blankBehind
    have body := (read.decodeValue_append before blankBefore).decodeBody status
    rw [← List.append_assoc, if_pos ((isEmpty_skipGap_iff behind).mpr blankBehind)] at body
    exact body
  · intro notNumber behind other
    have read := reads behind fun number equal => absurd equal (notNumber number)
    have some : ¬ (skipGap behind).isEmpty = true := by
      obtain ⟨byte, inside, notGap⟩ := other
      intro empty
      exact notGap ((isEmpty_skipGap_iff behind).mp empty byte inside)
    have body := read.decodeBody status
    rw [if_neg some] at body
    exact body

theorem decodeBody_withJsonBody_nested :
    (Value.array [.string "a\n", .object [("key", .number (.integer (-1)))]]).Fits 127 ∧
      ∃ after body,
        (plain .put "items/1").withJsonBody
          (.array [.string "a\n", .object [("key", .number (.integer (-1)))]]) = .ok after ∧
        after.body = some body ∧
        decodeBody 200 Decoder.any ([0x20] ++ body ++ [0x0A]) =
          .ok (.array [.string "a\n", .object [("key", .number (.integer (-1)))]]) ∧
        decodeBody 200 Decoder.any (body ++ [0x20, 0x5D]) = .error (.trailingData (some 200)) := by
  have fits :
      (Value.array [.string "a\n", .object [("key", .number (.integer (-1)))]]).Fits 127 := by
    apply Value.Fits.array
    intro item inside
    simp only [List.mem_cons, List.not_mem_nil, or_false] at inside
    obtain rfl | rfl := inside
    · exact .scalar _ (.string _)
    · apply Value.Fits.object _ (List.pairwise_singleton ..)
      intro member isMember
      rw [List.mem_singleton.mp isMember]
      exact .scalar _ (.integer _ (by decide))
  obtain ⟨after, body, sent, isBody, read, reported⟩ :=
    decodeBody_withJsonBody (plain .put "items/1") 200 _ fits
  exact ⟨fits, after, body, sent, isBody, read [0x20] [0x0A] (by simp) (by simp),
    reported (by simp) [0x20, 0x5D] (by simp)⟩

end Request

end ConfinedHttp
