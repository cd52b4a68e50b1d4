import ConfinedHttp.Proofs.Signing
import Mathlib.Data.List.Basic

namespace ConfinedHttp

namespace Multidict

/-- Setting a value looks only at the pairs of its key. -/
theorem filter_setPairs_of_notKept (keeps : String × String → Bool) (key value : String)
    (pairs : List (String × String)) (dropped : ∀ other, keeps (key, other) = false) :
    (setPairs key value pairs).filter keeps = pairs.filter keeps := by
  induction pairs with
  | nil => simp [setPairs, dropped]
  | cons pair rest inductionHypothesis =>
    unfold setPairs
    split
    case isTrue isKey =>
      have same : pair = (key, pair.2) := by rw [← isKey]
      have others : (rest.filter fun other => decide (other.1 ≠ key)).filter keeps =
          rest.filter keeps := by
        rw [List.filter_filter]
        apply List.filter_congr
        intro other _
        by_cases isOther : other.1 = key
        · have dropsOther : keeps other = false := by
            rw [← dropped other.2, ← isOther]
          simp [dropsOther]
        · simp [isOther]
      rw [List.filter_cons_of_neg (by simp [dropped]), others, same,
        List.filter_cons_of_neg (by simp [dropped])]
    case isFalse => simp only [List.filter_cons, inductionHypothesis]

/-- Setting a value commutes with a choice of pairs that takes all pairs of its key. -/
theorem filter_setPairs_of_kept (keeps : String × String → Bool) (key value : String)
    (pairs : List (String × String)) (kept : ∀ other, keeps (key, other) = true) :
    (setPairs key value pairs).filter keeps = setPairs key value (pairs.filter keeps) := by
  induction pairs with
  | nil => simp [setPairs, kept]
  | cons pair rest inductionHypothesis =>
    by_cases isKey : pair.1 = key
    · have keepsPair : keeps pair = true := by rw [← kept pair.2, ← isKey]
      rw [setPairs, if_pos isKey, List.filter_cons_of_pos keepsPair, setPairs, if_pos isKey,
        List.filter_cons_of_pos (kept value), List.filter_filter, List.filter_filter]
      congr 1
      apply List.filter_congr
      intro other _
      exact Bool.and_comm ..
    · rw [setPairs, if_neg isKey]
      by_cases keepsPair : keeps pair = true
      · rw [List.filter_cons_of_pos keepsPair, List.filter_cons_of_pos keepsPair, setPairs,
          if_neg isKey, inductionHypothesis]
      · rw [List.filter_cons_of_neg keepsPair, List.filter_cons_of_neg keepsPair,
          inductionHypothesis]

@[simp] theorem notNamed_set (dict : Multidict) (key value : String) :
    (dict.set key value).notNamed key = dict.notNamed key :=
  filter_setPairs_of_notKept _ key value dict.pairs fun other => by simp [Ascii.sameName]

theorem named_set (dict : Multidict) (key value : String) :
    (dict.set key value).named key = setPairs key value (dict.named key) :=
  filter_setPairs_of_kept _ key value dict.pairs fun other => by simp [Ascii.sameName]

/-- A value that was set is there. -/
theorem mem_setPairs (key value : String) (pairs : List (String × String)) :
    (key, value) ∈ setPairs key value pairs := by
  induction pairs with
  | nil => exact List.mem_singleton_self _
  | cons pair rest inductionHypothesis =>
    unfold setPairs
    split
    · exact List.mem_cons_self
    · exact List.mem_cons_of_mem _ inductionHypothesis

/-- Pairs of other keys stay. -/
theorem mem_setPairs_of_ne (key value : String) (pairs : List (String × String))
    (pair : String × String) (inside : pair ∈ pairs) (other : pair.1 ≠ key) :
    pair ∈ setPairs key value pairs := by
  have kept := filter_setPairs_of_notKept (fun pair => decide (pair.1 ≠ key)) key value pairs
    (by simp)
  have chosen : pair ∈ pairs.filter fun pair => decide (pair.1 ≠ key) :=
    List.mem_filter.mpr ⟨inside, by simpa using other⟩
  rw [← kept] at chosen
  exact (List.mem_filter.mp chosen).1

/-- A value that was set stands alone exactly when every pair before had its key. -/
theorem setPairs_eq_singleton_iff (key value : String) (pairs : List (String × String)) :
    (∃ name, setPairs key value pairs = [(name, value)]) ↔ ∀ pair ∈ pairs, pair.1 = key := by
  constructor
  · rintro ⟨name, alone⟩ pair inside
    by_contra other
    have isSet := mem_setPairs key value pairs
    have stays := mem_setPairs_of_ne key value pairs pair inside other
    rw [alone, List.mem_singleton] at isSet stays
    exact other (by rw [stays, ← isSet])
  · intro each
    refine ⟨key, ?_⟩
    cases pairs with
    | nil => rfl
    | cons pair rest =>
      obtain ⟨isKey, others⟩ := List.forall_mem_cons.mp each
      have none : (rest.filter fun other => decide (other.1 ≠ key)) = [] := by
        simpa using others
      rw [setPairs, if_pos isKey, none]

end Multidict

namespace Request

/-- A payload that cannot be written is reported.  Any other becomes the body, as JSON text, and the
method, the path, the parameters and the headers with other names stay as they are.  The content type
of JSON then stands alone under its name, in any case, exactly when no header that stood under the
name before was written with other letters: such a header is not replaced. -/
theorem withPayload_declares (request : Request) (payload : Except String Json.Value) :
    match payload with
    | .error reason =>
      request.withPayload payload =
        .error (.unsupportedShape ("JSON body cannot be encoded: " ++ reason))
    | .ok value =>
      ∃ after, request.withPayload payload = .ok after ∧
        after.method = request.method ∧ after.path = request.path ∧
        after.query = request.query ∧ after.body = some (textBytes value.text) ∧
        after.headers.notNamed "Content-Type" = request.headers.notNamed "Content-Type" ∧
        ((∃ name, after.headers.named "Content-Type" = [(name, "application/json")]) ↔
          ∀ header ∈ request.headers.named "Content-Type", header.1 = "Content-Type") := by
  cases payload with
  | error reason => rfl
  | ok value =>
    refine ⟨_, rfl, rfl, rfl, rfl, ?_, Multidict.notNamed_set .., ?_⟩
    · rw [textBytes, Json.Value.text, String.toList_ofList]
    · rw [Multidict.named_set]
      exact Multidict.setPairs_eq_singleton_iff ..

/-- A content type in small letters stays beside the one of JSON. -/
theorem not_withPayload_declares_beside_small_letters :
    ¬ ∀ (request : Request) (value : Json.Value) (after : Request),
      request.withJsonBody value = .ok after →
        ∃ name, after.headers.named "Content-Type" = [(name, "application/json")] := by
  intro alone
  obtain ⟨name, equal⟩ := alone
    ((plain .put "items/1").withHeaders ⟨[("content-type", "text/plain")]⟩) .null _ rfl
  have two : Multidict.named
      ((⟨[("content-type", "text/plain")]⟩ : Multidict).set "Content-Type" "application/json")
      "Content-Type" = [("content-type", "text/plain"), ("Content-Type", "application/json")] := by
    decide
  exact absurd (two.symm.trans equal) (by simp)

end Request

end ConfinedHttp
