import ConfinedHttp.Proofs.Domain.PunycodeReading

namespace ConfinedHttp.Domain.Punycode

/-- A number has at least as many digits as in base 36, because no digit weighs more. -/
theorem lt_pow_length (bias number position : Nat) :
    number < 36 ^ (writeNumber bias number position).length := by
  fun_induction writeNumber bias number position with
  | case1 number position least below =>
    have bounds := threshold_bounds position bias
    simp only [List.length_singleton, pow_one]
    omega
  | case2 number position least notBelow inductionHypothesis =>
    have bounds : 1 ≤ least ∧ least ≤ 26 := threshold_bounds position bias
    have divided := Nat.div_add_mod (number - least) (36 - least)
    have remainder : (number - least) % (36 - least) < 36 - least := Nat.mod_lt _ (by omega)
    generalize (number - least) / (36 - least) = quotient at inductionHypothesis divided ⊢
    rw [List.length_cons, pow_succ]
    calc
      number < (36 - least) * (quotient + 1) + least := by
        rw [Nat.mul_succ]
        omega
      _ ≤ (36 - least) * (quotient + 1) + least * (quotient + 1) :=
        Nat.add_le_add_left (Nat.le_mul_of_pos_right _ (Nat.succ_pos _)) _
      _ = 36 * (quotient + 1) := by
        rw [← Nat.add_mul, Nat.sub_add_cancel (by omega)]
      _ ≤ _ := by
        rw [Nat.mul_comm]
        exact Nat.mul_le_mul_right _ inductionHypothesis

/-- A number that does not fit into two digits is written in three or more. -/
theorem three_le_length (bias number position : Nat) (large : 1296 ≤ number) :
    3 ≤ (writeNumber bias number position).length := by
  by_contra short
  have fits := lt_pow_length bias number position
  have small : 36 ^ (writeNumber bias number position).length ≤ 36 ^ 2 :=
    Nat.pow_le_pow_right (by decide) (by omega)
  omega

/-- A writer has gone on from another one if it wrote no fewer characters and digits. -/
def Continues (before after : Writing) : Prop :=
  before.written ≤ after.written ∧ before.digits.length ≤ after.digits.length

theorem Continues.trans {first second third : Writing} (before : Continues first second)
    (after : Continues second third) : Continues first third :=
  ⟨before.1.trans after.1, before.2.trans after.2⟩

theorem continues_pass (basic code : Nat) (writing : Writing) (character : Char) :
    Continues writing (pass basic code writing character) := by
  rw [pass]
  split
  · exact ⟨Nat.le_refl _, Nat.le_refl _⟩
  · split
    · exact ⟨Nat.le_succ _, by simp⟩
    · exact ⟨Nat.le_refl _, Nat.le_refl _⟩

theorem continues_passes (basic code : Nat) (label : List Char) (writing : Writing) :
    Continues writing (label.foldl (pass basic code) writing) := by
  induction label generalizing writing with
  | nil => exact ⟨Nat.le_refl _, Nat.le_refl _⟩
  | cons character rest inductionHypothesis =>
    exact (continues_pass basic code writing character).trans (inductionHypothesis _)

/-- Passing a label that holds the code writes a number, which is at least what was gathered
before. -/
theorem written_of_mem (basic code : Nat) (label : List Char) (writing : Writing)
    (inside : ∃ character ∈ label, character.toNat = code) :
    writing.written + 1 ≤ (label.foldl (pass basic code) writing).written ∧
      (1296 ≤ writing.delta →
        writing.digits.length + 3 ≤ (label.foldl (pass basic code) writing).digits.length) := by
  induction label generalizing writing with
  | nil => simp at inside
  | cons character rest inductionHypothesis =>
    have later (other : character.toNat ≠ code) : ∃ next ∈ rest, next.toNat = code := by
      simpa [other] using inside
    rw [List.foldl_cons]
    obtain smaller | equal | larger := Nat.lt_trichotomy character.toNat code
    · obtain ⟨written, digits⟩ := inductionHypothesis
        { writing with delta := writing.delta + 1 } (later (by omega))
      rw [pass, if_pos smaller]
      exact ⟨written, fun large => digits (Nat.le_succ_of_le large)⟩
    · rw [pass, if_neg (by omega), if_pos equal]
      obtain ⟨written, digits⟩ := continues_passes basic code rest
        { delta := 0
          bias := adapt writing.delta (writing.written + 1) (writing.written == basic)
          written := writing.written + 1
          digits := writing.digits ++ writeNumber writing.bias writing.delta 36 }
      refine ⟨written, fun large => le_trans ?_ digits⟩
      rw [List.length_append]
      exact Nat.add_le_add_left (three_le_length _ _ _ large) _
    · rw [pass, if_neg (by omega), if_neg (by omega)]
      exact inductionHypothesis writing (later (by omega))

/-- Codes that lie 29 apart take three digits each, once 46 characters are written. -/
theorem length_writeCodes (label : List Char) (basic next : Nat) (writing : Writing)
    (codes : List Nat) (apart : codes.Pairwise (· + 29 ≤ ·))
    (ahead : ∀ code ∈ codes, next + 28 ≤ code)
    (inside : ∀ code ∈ codes, ∃ character ∈ label, character.toNat = code) :
    writing.digits.length + 3 * (codes.length - (46 - writing.written)) ≤
      (writeCodes label basic next writing codes).digits.length := by
  induction codes generalizing next writing with
  | nil => simp [writeCodes]
  | cons code others inductionHypothesis =>
    obtain ⟨first, apart⟩ := List.pairwise_cons.mp apart
    obtain ⟨here, later⟩ := List.forall_mem_cons.mp inside
    rw [writeCodes]
    set skipped : Writing :=
      { writing with delta := writing.delta + (code - next) * (writing.written + 1) } with isSkipped
    obtain ⟨written, digits⟩ := written_of_mem basic code label skipped here
    have rest := inductionHypothesis (code + 1)
      { label.foldl (pass basic code) skipped with
        delta := (label.foldl (pass basic code) skipped).delta + 1 }
      apart (fun other within => by have := first other within; omega) later
    -- the 28 codes skipped count once for each of at least 47 places
    have large (many : 46 ≤ writing.written) : 1296 ≤ skipped.delta := by
      have gap := ahead code (List.mem_cons_self ..)
      have product : 28 * 47 ≤ (code - next) * (writing.written + 1) :=
        Nat.mul_le_mul (by omega) (by omega)
      simp only [isSkipped]
      omega
    have continued := (continues_passes basic code label skipped).2
    simp only [isSkipped] at written digits continued large
    simp only [List.length_cons, isSkipped] at rest ⊢
    -- before that the length need not grow, and the bound does not either
    by_cases many : 46 ≤ writing.written
    · have three := digits (large many)
      omega
    · omega

/-- The codes of an increasing list are the list itself. -/
theorem foldr_insertCode (codes : List Nat) (increasing : codes.Pairwise (· < ·)) :
    codes.foldr insertCode [] = codes := by
  induction codes with
  | nil => rfl
  | cons code rest inductionHypothesis =>
    obtain ⟨first, rest_increasing⟩ := List.pairwise_cons.mp increasing
    rw [List.foldr_cons, inductionHypothesis rest_increasing]
    cases rest with
    | nil => rfl
    | cons next others => rw [insertCode, if_pos (first next (List.mem_cons_self ..))]

/-- A label of characters past ASCII that lie 29 apart takes three digits for each of them after
the first 46. -/
theorem length_encode (label : List Char) (apart : (label.map Char.toNat).Pairwise (· + 29 ≤ ·))
    (wide : ∀ character ∈ label, 156 ≤ character.toNat) :
    3 * (label.length - 46) ≤ (encode label).length := by
  have increasing : (label.map Char.toNat).Pairwise (· < ·) :=
    apart.imp fun above => by omega
  have past (code : Nat) (inside : code ∈ label.map Char.toNat) : 156 ≤ code := by
    obtain ⟨character, within, rfl⟩ := List.mem_map.mp inside
    exact wide character within
  have codes : codesOf label = label.map Char.toNat := by
    have all : (label.map Char.toNat).filter (128 ≤ ·) = label.map Char.toNat := by
      rw [List.filter_eq_self]
      intro code inside
      have := past code inside
      simp only [decide_eq_true_eq]
      omega
    rw [codesOf, all, foldr_insertCode _ increasing]
  have long := length_writeCodes label (basicOf label).length 128
    ⟨0, 72, (basicOf label).length, []⟩ (label.map Char.toNat) apart past
    fun code inside => List.mem_map.mp inside
  rw [← codes] at long
  have digits : (digitsOf label).length ≤ (encode label).length := by
    rw [encode_eq, List.length_append]
    exact Nat.le_add_left ..
  simp only [List.length_nil, codes, List.length_map] at long
  rw [digitsOf, codes] at digits
  omega

end ConfinedHttp.Domain.Punycode
