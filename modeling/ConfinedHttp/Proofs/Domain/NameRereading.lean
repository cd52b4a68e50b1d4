import ConfinedHttp.Proofs.Url.HostReading

namespace ConfinedHttp.Domain

/-- Of the labels in ASCII form, only those with a limited length are read. -/
def isShortLabel (label : List Char) : Bool :=
  !marker.isPrefixOf label || label.length ≤ marker.length + 2000

/-- A domain name can be read again when its labels are short enough. -/
def hasShortLabels (name : List Char) : Bool := (splitAt (· == '.') name).all isShortLabel

theorem isAscii_iff (text : List Char) :
    isAscii text = true ↔ ∀ character ∈ text, character.toNat < 128 := by
  simp [isAscii]

section Plain

variable {text : List Char}

theorem map_of_isPlain (character : Char) (plain : IsPlain character) :
    Mapping.map? character = some [character] := by
  obtain ⟨ascii, kept⟩ := plain
  have small : character.toLower = character := by
    revert kept
    refine Ascii.forall_of_forall_code ?_ character ascii
    decide
  rw [Mapping.map?, if_pos ascii, small]

theorem normalize_of_isPlain (plain : ∀ character ∈ text, IsPlain character) :
    Composition.normalize text = text := by
  have ascii : text.all (·.toNat < 0x80) = true :=
    (isAscii_iff text).mpr fun character inside => (plain character inside).1
  rw [Composition.normalize, if_pos ascii]

/-- The labels of a text that mapping and composing leave as it is are what stands between its
dots. -/
theorem labels_of_unchanged
    (same : ∀ character ∈ text, Mapping.map? character = some [character])
    (composed : Composition.normalize text = text) :
    labels? text = (do
      let labels ← (splitAt (· == '.') text).mapM readLabel?
      if labels.any Direction.turns && !labels.all Direction.follows then none
      else some labels) := by
  have mapped : text.mapM Mapping.map? = some (text.map fun character => [character]) := by
    clear composed
    induction text with
    | nil => rfl
    | cons character rest inductionHypothesis =>
      obtain ⟨here, later⟩ := List.forall_mem_cons.mp same
      rw [List.mapM_cons, here, inductionHypothesis later]
      rfl
  have whole : (text.map fun character => [character]).flatten = text := by
    rw [← List.flatMap_def, List.flatMap_singleton']
  simp only [labels?, mapped, Option.bind_eq_bind, Option.bind_some, whole, composed]

theorem labels_of_isPlain (plain : ∀ character ∈ text, IsPlain character) :
    labels? text = (do
      let labels ← (splitAt (· == '.') text).mapM readLabel?
      if labels.any Direction.turns && !labels.all Direction.follows then none
      else some labels) :=
  labels_of_unchanged (fun character inside => map_of_isPlain character (plain character inside))
    (normalize_of_isPlain plain)

end Plain

section Labels

variable {label script : List Char}

/-- Only a label that was not read from its ASCII form can be in ASCII. -/
theorem readLabel_of_isAscii (read : readLabel? label = some script)
    (ascii : isAscii script = true) : label = script ∧ marker.isPrefixOf script = false := by
  simp only [readLabel?, Option.bind_eq_bind] at read
  split at read
  case isTrue marked =>
    split at read
    case isTrue written =>
      obtain ⟨found, decoded, kept⟩ := Option.bind_eq_some_iff.mp read
      split at kept
      · obtain rfl := Option.some.inj kept
        simp only [Bool.and_eq_true] at written
        obtain ⟨character, inside, wide⟩ := Punycode.wide_of_decode _ found decoded written.1.2
        have := (isAscii_iff found).mp ascii character inside
        omega
      · cases kept
    case isFalse => cases read
  case isFalse unmarked =>
    obtain ⟨found, isLabel, kept⟩ := Option.bind_eq_some_iff.mp read
    obtain rfl := Option.some.inj isLabel
    split at kept
    · obtain rfl := Option.some.inj kept
      exact ⟨rfl, (Bool.not_eq_true _).mp unmarked⟩
    · cases kept

/-- A label past ASCII has digits in its ASCII form. -/
theorem digitsOf_ne_nil (wide : isAscii script = false) : Punycode.digitsOf script ≠ [] := by
  intro none
  have numbers := Punycode.readNumbers_digitsOf script
  rw [none] at numbers
  have basic : Punycode.basicOf script = script := Option.some.inj numbers
  rw [Punycode.basicOf, List.filter_eq_self] at basic
  have ascii : isAscii script = true := by simpa [isAscii] using basic
  simp [ascii] at wide

/-- The ASCII form of a label past ASCII ends in a digit. -/
theorem getLast_encode (wide : isAscii script = false) :
    (Punycode.encode script).getLast?.any (· != '-') = true := by
  obtain ⟨front, last, equal⟩ := List.eq_nil_or_concat' (Punycode.digitsOf script) |>.resolve_left
    (digitsOf_ne_nil wide)
  have isDigit := Punycode.isDigit_of_mem_digitsOf script last (by simp [equal])
  rw [Punycode.encode_eq, equal, ← List.append_assoc, List.getLast?_concat]
  simpa using Punycode.digit_ne_hyphen last isDigit

/-- A label that was read is read again from its ASCII form, unless that is too long. -/
theorem readLabel_writeLabel (read : readLabel? label = some script) :
    readLabel? (writeLabel script) =
      if isShortLabel (writeLabel script) then some script else none := by
  have sound := isSound_of_readLabel label script read
  cases wide : isAscii script with
  | true =>
    obtain ⟨rfl, unmarked⟩ := readLabel_of_isAscii read wide
    rw [writeLabel, if_pos wide, isShortLabel, unmarked]
    simpa using read
  | false =>
    have ascii : isAscii (Punycode.encode script) = true :=
      (isAscii_iff _).mpr fun character inside =>
        (Punycode.isPlain_of_mem_encode script
          (fun other within small => (isPlain_of_isSound script sound other within small).1)
          character inside).1
    have marked : isAscii (marker ++ Punycode.encode script) = true := by
      rw [isAscii, List.all_append]
      exact Bool.and_eq_true_iff.mpr ⟨by decide, ascii⟩
    have short : isShortLabel (marker ++ Punycode.encode script) =
        decide ((Punycode.encode script).length ≤ 2000) := by
      simp [isShortLabel]
    rw [writeLabel, if_neg (by simp [wide]), short]
    simp only [readLabel?, List.drop_left, ascii, getLast_encode wide, Bool.true_and, marked,
      Bool.true_or, Punycode.decode_encode, Option.bind_eq_bind]
    simp [sound]

/-- The ASCII form of a label holds no dot. -/
theorem dot_notMem_writeLabel (sound : isSound script = true) :
    ∀ character ∈ writeLabel script, (character == '.') = false := by
  intro character inside
  have basic := isPlain_of_isSound script sound
  rw [writeLabel] at inside
  split at inside
  case isTrue ascii =>
    simpa using (basic character inside ((isAscii_iff script).mp ascii character inside)).2
  case isFalse =>
    rw [Punycode.encode_eq] at inside
    simp only [List.mem_append] at inside
    obtain mark | (kept | hyphen) | digit := inside
    · have each : marker.all (fun other => (other == '.') = false) = true := by decide
      exact forall_mem_of_all marker each character mark
    · obtain ⟨within, ascii⟩ := List.mem_filter.mp kept
      simpa using (basic character within (by simpa using ascii)).2
    · split at hyphen
      · simp at hyphen
      · rw [List.mem_singleton.mp hyphen]
        decide
    · obtain ⟨value, small, rfl⟩ := Punycode.isDigit_of_mem_digitsOf script character digit
      have each : ∀ value < 36, (Punycode.digit value == '.') = false := by decide
      exact each value small

end Labels

/-- A map that fails on some items and gives the others back fails or gives the whole list back. -/
theorem mapM_map_of_each {α β : Type} (function : α → Option β) (write : β → α) (good : α → Bool)
    (items : List β)
    (each : ∀ item ∈ items, function (write item) = if good (write item) then some item else none) :
    (items.map write).mapM function = if (items.map write).all good then some items else none := by
  induction items with
  | nil => rfl
  | cons item rest inductionHypothesis =>
    rw [List.map_cons, List.mapM_cons, each item (List.mem_cons_self ..),
      inductionHypothesis fun other inside => each other (List.mem_cons_of_mem _ inside),
      List.all_cons]
    cases good (write item) with
    | false => rfl
    | true => cases (rest.map write).all good <;> rfl

/-- The ASCII form of a domain name stands for itself, unless one of its labels is too long. -/
theorem toAscii_of_toAscii (name domain : List Char) (read : toAscii? name = some domain) :
    toAscii? domain = if hasShortLabels domain then some domain else none := by
  have plain := isPlain_of_toAscii name domain read
  simp only [toAscii?, Option.map_eq_some_iff] at read
  obtain ⟨scripts, found, rfl⟩ := read
  have each := exists_readLabel_of_labels name scripts found
  simp only [labels?, bind, Option.bind_eq_some_iff] at found
  obtain ⟨mapped, -, written, readAll, kept⟩ := found
  split at kept
  · simp at kept
  case isFalse directed =>
    obtain rfl := Option.some.inj kept
    have some : written ≠ [] := by
      rintro rfl
      have pieces := splitAt_ne_nil (· == '.') (Composition.normalize mapped.flatten)
      obtain ⟨first, rest, equal⟩ := List.exists_cons_of_ne_nil pieces
      simp [equal, Option.bind_eq_some_iff] at readAll
    have cut : splitAt (· == '.') (['.'].intercalate (written.map writeLabel)) =
        written.map writeLabel := by
      refine splitAt_intercalate _ '.' _ rfl (by simpa using some) fun label inside => ?_
      obtain ⟨script, within, rfl⟩ := List.mem_map.mp inside
      obtain ⟨source, isRead⟩ := each script within
      exact dot_notMem_writeLabel (isSound_of_readLabel source script isRead)
    have again := mapM_map_of_each readLabel? writeLabel isShortLabel written fun script within => by
      obtain ⟨source, isRead⟩ := each script within
      exact readLabel_writeLabel isRead
    rw [toAscii?, labels_of_isPlain plain, cut, again, hasShortLabels, cut]
    cases (written.map writeLabel).all isShortLabel with
    | true =>
      simp only [if_true, Option.bind_eq_bind, Option.bind_some, if_neg directed, Option.map_some]
    | false => rfl

/-- Ranges that are placed from a code point on start there or later. -/
theorem le_of_mem_place (next : Nat) (numbers : List Nat) :
    ∀ bound ∈ Ranges.place next numbers, next ≤ bound.1 := by
  fun_induction Ranges.place next numbers with
  | case1 next gap size rest inductionHypothesis =>
    intro bound inside
    obtain rfl | later := List.mem_cons.mp inside
    · exact Nat.le_add_right ..
    · have := inductionHypothesis bound later
      omega
  | case2 => simp

/-- A table whose first range is past ASCII holds no ASCII character. -/
theorem contains_eq_false_of_ascii (table : List String) (first last : Nat)
    (head : (Ranges.read table).bounds.head? = some (first, last)) (wide : 128 ≤ first)
    (character : Char) (ascii : character.toNat < 128) :
    (Ranges.read table).contains character = false := by
  have above : ∀ bound ∈ (Ranges.read table).bounds, first ≤ bound.1 := by
    rw [Ranges.read] at head ⊢
    rw [Ranges.place.eq_def] at head ⊢
    split at head
    · obtain ⟨rfl, -⟩ := Prod.mk.inj (Option.some.inj head)
      intro bound inside
      obtain rfl | later := List.mem_cons.mp inside
      · exact Nat.le_refl _
      · have := le_of_mem_place _ _ bound later
        omega
    · cases head
  rw [Ranges.contains, List.any_eq_false]
  intro bound inside
  have := above bound inside
  simp only [Bool.and_eq_true, decide_eq_true_eq]
  omega

/-- Joiners fit wherever there are none. -/
theorem joinersFit_of_notMem (before label : List Char) (noNonJoiner : '\u200C' ∉ label)
    (noJoiner : '\u200D' ∉ label) : Joining.joinersFit before label = true := by
  induction label generalizing before with
  | nil => rfl
  | cons character rest inductionHypothesis =>
    rw [List.mem_cons, not_or] at noNonJoiner noJoiner
    have other : (character == '\u200C' || character == '\u200D') = false := by
      rw [Bool.or_eq_false_iff, beq_eq_false_iff_ne, beq_eq_false_iff_ne]
      exact ⟨Ne.symm noNonJoiner.1, Ne.symm noJoiner.1⟩
    rw [Joining.joinersFit, other, inductionHypothesis _ noNonJoiner.2 noJoiner.2]
    rfl

/-- A plain label without the marker is read as it is. -/
theorem readLabel_of_isPlain (label : List Char)
    (plain : ∀ character ∈ label, IsPlain character ∧ character ≠ '.')
    (unmarked : marker.isPrefixOf label = false) : readLabel? label = some label := by
  have ascii : ∀ character ∈ label, character.toNat < 128 :=
    fun character inside => (plain character inside).1.1
  have stands : label.all mayStand = true := by
    rw [List.all_eq_true]
    intro character inside
    obtain ⟨⟨small, kept⟩, noDot⟩ := plain character inside
    simp [mayStand, small, kept, noDot]
  have noMark : label.head?.any marks.contains = false := by
    cases label with
    | nil => rfl
    | cons first rest =>
      exact contains_eq_false_of_ascii _ 0x300 0x33F (by decide +kernel) (by decide) first
        (ascii first (List.mem_cons_self ..))
  have fits : Joining.joinersFit [] label = true :=
    joinersFit_of_notMem [] label (fun inside => absurd (ascii _ inside) (by decide))
      fun inside => absurd (ascii _ inside) (by decide)
  have sound : isSound label = true := by
    simp [isSound, stands, normalize_of_isPlain fun character inside => (plain character inside).1,
      noMark, fits]
  simp [readLabel?, unmarked, sound, (isAscii_iff label).mpr ascii]

theorem turns_of_ascii (label : List Char) (ascii : ∀ character ∈ label, character.toNat < 128) :
    Direction.turns label = false := by
  rw [Direction.turns, List.any_eq_false]
  intro character inside
  have small := ascii character inside
  have noLetter : Direction.rightToLeft.contains character = false :=
    contains_eq_false_of_ascii _ 0x5BE 0x5BE (by decide +kernel) (by decide) character small
  have noDigit : Direction.arabicDigits.contains character = false :=
    contains_eq_false_of_ascii _ 0x660 0x669 (by decide +kernel) (by decide) character small
  simp [noLetter, noDigit]

/-- A name in plain text stands for itself, if no label has the marker. -/
theorem toAscii_of_isPlain (labels : List (List Char)) (some : labels ≠ [])
    (plain : ∀ label ∈ labels, ∀ character ∈ label, IsPlain character ∧ character ≠ '.')
    (unmarked : ∀ label ∈ labels, marker.isPrefixOf label = false) :
    toAscii? (['.'].intercalate labels) = .some (['.'].intercalate labels) := by
  have ascii (label : List Char) (inside : label ∈ labels) :
      ∀ character ∈ label, character.toNat < 128 :=
    fun character within => (plain label inside character within).1.1
  have whole : ∀ character ∈ ['.'].intercalate labels, IsPlain character := by
    intro character inside
    obtain dot | ⟨label, within, here⟩ := mem_intercalate _ _ character inside
    · rw [List.mem_singleton.mp dot]
      decide
    · exact (plain label within character here).1
  have cut : splitAt (· == '.') (['.'].intercalate labels) = labels :=
    splitAt_intercalate _ '.' labels rfl some fun label inside character within => by
      simpa using (plain label inside character within).2
  have read : labels.mapM readLabel? = .some labels := by
    have each := mapM_map_of_each readLabel? id (fun _ => true) labels fun label inside =>
      readLabel_of_isPlain label (plain label inside) (unmarked label inside)
    simpa using each
  have straight : labels.any Direction.turns = false := by
    rw [List.any_eq_false]
    intro label inside
    simp [turns_of_ascii label (ascii label inside)]
  have written : labels.map writeLabel = labels := by
    conv_rhs => rw [← List.map_id labels]
    refine List.map_congr_left fun label inside => ?_
    rw [writeLabel, if_pos ((isAscii_iff label).mpr (ascii label inside))]
    rfl
  simp only [toAscii?, labels_of_isPlain whole, cut, read, Option.bind_eq_bind, Option.bind_some,
    straight, Bool.false_and, Bool.false_eq_true, if_false, Option.map_some, written]

end ConfinedHttp.Domain
