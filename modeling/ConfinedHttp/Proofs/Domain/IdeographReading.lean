import ConfinedHttp.Proofs.Domain.NameRereading

namespace ConfinedHttp

/-- The lines of a table, given as lists of characters, with which the numbers of the table are
computed faster than with its strings. -/
inductive IsWritten : List String → List (List Char) → Prop where
  | nil : IsWritten [] []
  | cons (line : List Char) {table : List String} {lines : List (List Char)}
      (rest : IsWritten table lines) : IsWritten (String.ofList line :: table) (line :: lines)

theorem tableNumbers_of_isWritten {table : List String} {lines : List (List Char)}
    (written : IsWritten table lines) : tableNumbers table = lines.flatMap lineNumbers := by
  induction written with
  | nil => rfl
  | cons line rest inductionHypothesis =>
    rw [List.flatMap_cons, ← inductionHypothesis, tableNumbers, tableNumbers, List.flatMap_cons,
      String.toList_ofList]

/-- The first of the unified ideographs. -/
def firstIdeograph : Nat := 0x4E00

/-- The last one of the block as it was first published. -/
def lastIdeograph : Nat := 0x9FA5

/-- A unified ideograph. -/
def IsIdeograph (code : Nat) : Prop := firstIdeograph ≤ code ∧ code ≤ lastIdeograph

instance (code : Nat) : Decidable (IsIdeograph code) := inferInstanceAs (Decidable (_ ∧ _))

theorem IsIdeograph.wide {code : Nat} (ideograph : IsIdeograph code) : ¬ code < 128 := by
  obtain ⟨above, -⟩ := ideograph
  simp only [firstIdeograph] at above
  omega

/-- This function tests whether a range holds no ideograph. -/
def missesIdeographs (first last : Nat) : Bool :=
  Nat.blt last firstIdeograph || Nat.blt lastIdeograph first

theorem not_within_of_missesIdeographs {first last code : Nat}
    (misses : missesIdeographs first last = true) (ideograph : IsIdeograph code) :
    ¬ (first ≤ code ∧ code ≤ last) := by
  obtain ⟨above, below⟩ := ideograph
  simp only [missesIdeographs, Bool.or_eq_true, Nat.blt_eq] at misses
  omega

namespace Ranges

variable {table : List String} {lines : List (List Char)} {character : Char}

/-- One range of a table holds all ideographs. -/
theorem contains_of_isIdeograph (written : IsWritten table lines)
    (holds : ((place 0 (lines.flatMap lineNumbers)).any fun bound =>
      Nat.ble bound.1 firstIdeograph && Nat.ble lastIdeograph bound.2) = true)
    (ideograph : IsIdeograph character.toNat) : (read table).contains character = true := by
  obtain ⟨bound, inside, around⟩ := List.any_eq_true.mp holds
  obtain ⟨above, below⟩ := ideograph
  simp only [Bool.and_eq_true, Nat.ble_eq] at around
  rw [contains, read, tableNumbers_of_isWritten written, List.any_eq_true]
  refine ⟨bound, inside, ?_⟩
  simp only [Bool.and_eq_true, decide_eq_true_eq]
  omega

/-- No range of a table holds an ideograph. -/
theorem not_contains_of_isIdeograph (written : IsWritten table lines)
    (misses : ((place 0 (lines.flatMap lineNumbers)).all fun bound =>
      missesIdeographs bound.1 bound.2) = true)
    (ideograph : IsIdeograph character.toNat) : (read table).contains character = false := by
  rw [contains, read, tableNumbers_of_isWritten written, List.any_eq_false]
  intro bound inside
  simpa using not_within_of_missesIdeographs (List.all_eq_true.mp misses bound inside) ideograph

end Ranges

namespace Domain

section Tables

variable {character : Char} (ideograph : IsIdeograph character.toNat)

include ideograph

/-- A domain name may hold an ideograph as it is. -/
theorem permitted_of_isIdeograph : Mapping.permitted.contains character = true := by
  unfold Mapping.permitted
  apply Ranges.contains_of_isIdeograph ?written ?holds ideograph
  case written =>
    repeat apply IsWritten.cons
    exact .nil
  case holds => decide +kernel

theorem marks_of_isIdeograph : marks.contains character = false := by
  unfold marks
  apply Ranges.not_contains_of_isIdeograph ?written ?misses ideograph
  case written =>
    repeat apply IsWritten.cons
    exact .nil
  case misses => decide +kernel

theorem rightToLeft_of_isIdeograph : Direction.rightToLeft.contains character = false := by
  unfold Direction.rightToLeft
  apply Ranges.not_contains_of_isIdeograph ?written ?misses ideograph
  case written =>
    repeat apply IsWritten.cons
    exact .nil
  case misses => decide +kernel

theorem arabicDigits_of_isIdeograph : Direction.arabicDigits.contains character = false := by
  unfold Direction.arabicDigits
  apply Ranges.not_contains_of_isIdeograph ?written ?misses ideograph
  case written =>
    repeat apply IsWritten.cons
    exact .nil
  case misses => decide +kernel

end Tables

namespace Composition

theorem missesIdeographs_classTable :
    ((readClasses 0 (tableNumbers classTable)).all fun range =>
      missesIdeographs range.1 range.2.1) = true := by
  unfold classTable
  rw [tableNumbers_of_isWritten ?written]
  case written =>
    repeat apply IsWritten.cons
    exact .nil
  decide +kernel

theorem missesIdeographs_pairTable :
    ((readPairs 0 (tableNumbers pairTable)).all fun pair =>
      missesIdeographs pair.1 pair.1 && missesIdeographs pair.2.2 pair.2.2) = true := by
  unfold pairTable
  rw [tableNumbers_of_isWritten ?written]
  case written =>
    repeat apply IsWritten.cons
    exact .nil
  decide +kernel

/-- A character that composing leaves alone wherever it stands: it starts a sequence, has no parts
and is not joined with what stands before it. -/
structure IsInert (character : Char) : Prop where
  starts : combiningClass character = 0
  whole : parts? character = none
  apart : ∀ first, compose? first character = none

theorem isInert_of_isIdeograph {character : Char} (ideograph : IsIdeograph character.toNat) :
    IsInert character where
  starts := by
    have none : classes.find? (fun range =>
        range.1 ≤ character.toNat && character.toNat ≤ range.2.1) = none := by
      rw [List.find?_eq_none]
      intro range inside
      simpa using not_within_of_missesIdeographs
        (List.all_eq_true.mp missesIdeographs_classTable range inside) ideograph
    rw [combiningClass, none]
    rfl
  whole := by
    have noSyllable : syllableParts? character.toNat = none := by
      obtain ⟨-, below⟩ := ideograph
      rw [syllableParts?, if_neg (by simp only [lastIdeograph] at below; omega)]
    have noPair : pairs.lookup character.toNat = none := by
      rw [List.lookup_eq_none_iff]
      intro pair inside
      have misses := List.all_eq_true.mp missesIdeographs_pairTable pair inside
      have outside := not_within_of_missesIdeographs (Bool.and_eq_true_iff.mp misses).1 ideograph
      rw [bne_iff_ne]
      omega
    rw [parts?, noSyllable, noPair]
    rfl
  apart first := by
    have noSyllable : syllable? first.toNat character.toNat = none := by
      obtain ⟨above, -⟩ := ideograph
      simp only [firstIdeograph] at above
      rw [syllable?, if_neg (by omega), if_neg (by omega)]
    have noPair : pairs.find? (fun pair => pair.2 == (first.toNat, character.toNat)) = none := by
      rw [List.find?_eq_none]
      intro pair inside equal
      have misses := List.all_eq_true.mp missesIdeographs_pairTable pair inside
      have outside := not_within_of_missesIdeographs (Bool.and_eq_true_iff.mp misses).2 ideograph
      rw [beq_iff_eq] at equal
      simp [equal] at outside
    rw [compose?, noSyllable, noPair]
    rfl

variable {text : List Char} (inert : ∀ character ∈ text, IsInert character)

include inert

theorem decompose_of_isInert : text.flatMap (decompose 3) = text := by
  induction text with
  | nil => rfl
  | cons character rest inductionHypothesis =>
    obtain ⟨here, later⟩ := List.forall_mem_cons.mp inert
    rw [List.flatMap_cons, inductionHypothesis later, decompose, here.whole]
    rfl

theorem insertMarks_of_isInert : text.foldr insertMark [] = text := by
  induction text with
  | nil => rfl
  | cons character rest inductionHypothesis =>
    obtain ⟨here, later⟩ := List.forall_mem_cons.mp inert
    rw [List.foldr_cons, inductionHypothesis later]
    cases rest with
    | nil => rfl
    | cons next others => rw [insertMark, if_neg (by simp [here.starts])]

theorem join_of_isInert (start : Char) : join start [] text = start :: text := by
  induction text generalizing start with
  | nil => rfl
  | cons character rest inductionHypothesis =>
    obtain ⟨here, later⟩ := List.forall_mem_cons.mp inert
    simp [join, here.apart, here.starts, inductionHypothesis later]

/-- A text of inert characters is in composed form. -/
theorem normalize_of_isInert : normalize text = text := by
  rw [normalize]
  split
  · rfl
  · rw [decompose_of_isInert inert, insertMarks_of_isInert inert]
    cases text with
    | nil => rfl
    | cons start rest => exact join_of_isInert (List.forall_mem_cons.mp inert).2 start

end Composition

variable {label : List Char} (ideographs : ∀ character ∈ label, IsIdeograph character.toNat)

include ideographs

theorem not_isAscii_of_isIdeograph (some : label ≠ []) : isAscii label = false := by
  obtain ⟨first, rest, rfl⟩ := List.exists_cons_of_ne_nil some
  have wide := (ideographs first (List.mem_cons_self ..)).wide
  rw [isAscii, List.all_cons, decide_eq_false wide, Bool.false_and]

theorem normalize_of_isIdeograph : Composition.normalize label = label :=
  Composition.normalize_of_isInert fun character inside =>
    Composition.isInert_of_isIdeograph (ideographs character inside)

/-- A label of ideographs that is not too long is read as it is. -/
theorem readLabel_of_isIdeograph (short : label.length ≤ 1000) :
    readLabel? label = some label := by
  have stands : label.all mayStand = true := by
    rw [List.all_eq_true]
    intro character inside
    rw [mayStand, if_neg (ideographs character inside).wide,
      permitted_of_isIdeograph (ideographs character inside)]
  have noMark : label.head?.any marks.contains = false := by
    cases label with
    | nil => rfl
    | cons first rest => exact marks_of_isIdeograph (ideographs first (List.mem_cons_self ..))
  have fits : Joining.joinersFit [] label = true :=
    joinersFit_of_notMem [] label (fun inside => absurd (ideographs _ inside) (by decide))
      fun inside => absurd (ideographs _ inside) (by decide)
  have sound : isSound label = true := by
    simp [isSound, stands, normalize_of_isIdeograph ideographs, noMark, fits]
  have unmarked : marker.isPrefixOf label = false := by
    cases label with
    | nil => rfl
    | cons first rest =>
      have other : 'x' ≠ first := by
        rintro rfl
        exact absurd (ideographs 'x' (List.mem_cons_self ..)) (by decide)
      change (('x' == first) && _) = false
      rw [beq_false_of_ne other, Bool.false_and]
  simp [readLabel?, unmarked, sound, short]

/-- A label of ideographs is written in ASCII behind the marker. -/
theorem toAscii_of_isIdeograph (some : label ≠ []) (short : label.length ≤ 1000) :
    toAscii? label = .some (marker ++ Punycode.encode label) := by
  have same : ∀ character ∈ label, Mapping.map? character = .some [character] := by
    intro character inside
    rw [Mapping.map?, if_neg (ideographs character inside).wide, Mapping.mapWide?,
      if_pos (permitted_of_isIdeograph (ideographs character inside))]
  have single : splitAt (· == '.') label = [label] := by
    refine splitAt_of_clean _ label fun character inside => ?_
    rw [beq_eq_false_iff_ne]
    rintro rfl
    exact (ideographs '.' inside).wide (by decide)
  have straight : Direction.turns label = false := by
    rw [Direction.turns, List.any_eq_false]
    intro character inside
    simp [rightToLeft_of_isIdeograph (ideographs character inside),
      arabicDigits_of_isIdeograph (ideographs character inside)]
  have labels : labels? label = .some [label] := by
    rw [labels_of_unchanged same (normalize_of_isIdeograph ideographs), single]
    simp [readLabel_of_isIdeograph ideographs short, straight]
  rw [toAscii?, labels, Option.map_some, List.map_singleton, writeLabel,
    not_isAscii_of_isIdeograph ideographs some]
  simp [List.intercalate]

end Domain

end ConfinedHttp
