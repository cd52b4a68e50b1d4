import ConfinedHttp.Proofs.Domain.NameRereading

namespace ConfinedHttp

namespace Ascii

theorem hexValue_digitChar (value : Nat) (small : value < 16) :
    hexValue? value.digitChar = some value := by
  revert value
  decide

theorem numberOf_append (base : Nat) (front : List Char) (last : Char) :
    numberOf base (front ++ [last]) = numberOf base front * base + (hexValue? last).getD 0 := by
  simp [numberOf]

/-- The digits of a number are read as the number. -/
theorem numberOf_toDigits (base : Nat) (large : 1 < base) (bounded : base ≤ 16) (value : Nat) :
    numberOf base (Nat.toDigits base value) = value := by
  induction value using Nat.strongRecOn with
  | ind value inductionHypothesis =>
    rw [Nat.toDigits_eq_if large]
    split
    case isTrue small => simp [numberOf, hexValue_digitChar value (by omega)]
    case isFalse notSmall =>
      have remainder := Nat.mod_lt value (y := base) (by omega)
      rw [numberOf_append, inductionHypothesis _ (Nat.div_lt_self (by omega) large),
        hexValue_digitChar _ (by omega), Option.getD_some, Nat.div_add_mod']

end Ascii

namespace Ipv4

/-- The first digit of a number is zero only if the number is. -/
theorem head_decimal (value : Nat) (some : value ≠ 0) : (Ascii.decimal value).head? ≠ .some '0' := by
  induction value using Nat.strongRecOn with
  | ind value inductionHypothesis =>
    rw [Ascii.decimal, Nat.toDigits_eq_if (by decide)]
    split
    case isTrue small =>
      have each : ∀ digit < 10, digit ≠ 0 → [digit.digitChar].head? ≠ .some '0' := by decide
      exact each value small some
    case isFalse notSmall =>
      rw [List.head?_append_of_ne_nil _ Nat.toDigits_ne_nil]
      exact inductionHypothesis _ (Nat.div_lt_self (by omega) (by decide)) (by omega)

/-- A number in decimal is read as a part of an address. -/
theorem number_decimal (value : Nat) : number? (Ascii.decimal value) = some value := by
  have some : (Ascii.decimal value).isEmpty = false := by
    simp [Ascii.decimal, Nat.toDigits_ne_nil]
  have inTen : digitsOf (Ascii.decimal value) = (10, Ascii.decimal value) := by
    by_cases zero : value = 0
    · rw [zero]
      rfl
    · have head := head_decimal value zero
      rw [digitsOf.eq_def]
      split <;> simp_all
  have digits : (Ascii.decimal value).all (fun digit => (Ascii.hexValue? digit).any (· < 10)) =
      true := by
    rw [List.all_eq_true]
    intro digit inside
    obtain ⟨place, small, rfl⟩ := exists_digit_of_mem_toDigits 10 (by decide) value digit inside
    simp [Ascii.hexValue_digitChar place (by omega), small]
  simp only [number?, inTen, some, digits, if_true, Bool.false_eq_true, if_false]
  rw [Ascii.decimal, Ascii.numberOf_toDigits 10 (by decide) (by decide)]

theorem isDigit_of_mem_decimal (value : Nat) :
    ∀ character ∈ Ascii.decimal value, character.isDigit = true :=
  fun _ inside => Nat.isDigit_of_mem_toDigits (by decide) (by decide) inside

/-- Digits may stand in a domain name, but not for the marker. -/
theorem isPlain_of_mem_decimal (value : Nat) :
    ∀ character ∈ Ascii.decimal value,
      Domain.IsPlain character ∧ character ≠ '.' ∧ character ≠ 'x' := by
  intro character inside
  obtain ⟨place, small, rfl⟩ := exists_digit_of_mem_toDigits 10 (by decide) value character inside
  have each : ∀ place < 10, Domain.IsPlain place.digitChar ∧ place.digitChar ≠ '.' ∧
      place.digitChar ≠ 'x' := by
    decide
  exact each place small

/-- The parts of the text of an address. -/
theorem splitAt_write (address : Ipv4) :
    splitAt (· == '.') address.write = address.bytes.map Ascii.decimal :=
  splitAt_intercalate _ '.' _ rfl (by simp [bytes]) fun piece inside character within => by
    obtain ⟨value, -, rfl⟩ := List.mem_map.mp inside
    simpa using (isPlain_of_mem_decimal value character within).2.1

/-- Four bytes are joined, the most significant first. -/
theorem combine_four (first second third fourth : Nat)
    (small : first < 256 ∧ second < 256 ∧ third < 256 ∧ fourth < 256) :
    combine? [first, second, third, fourth] =
      some (((first * 256 + second) * 256 + third) * 256 + fourth) := by
  simp [combine?, small]

/-- Four bytes make the word again. -/
theorem combine_bytes (address : Ipv4) : combine? address.bytes = some address.word.toNat := by
  have bound := address.word.toNat_lt
  simp only [bytes]
  rw [combine_four _ _ _ _ (by omega), Option.some.injEq]
  omega

/-- An address is read from its text. -/
theorem read_write (address : Ipv4) : read? address.write = some address := by
  have parts : (address.bytes.map Ascii.decimal).mapM number? = some address.bytes := by
    have each := Domain.mapM_map_of_each number? Ascii.decimal (fun _ => true) address.bytes
      fun value _ => number_decimal value
    simpa using each
  have last : (address.bytes.map Ascii.decimal).getLast? ≠ some [] := by
    simp [bytes, Ascii.decimal, Nat.toDigits_ne_nil]
  simp only [read?, splitAt_write, if_neg last, parts, combine_bytes, Option.bind_eq_bind,
    Option.bind_some, UInt32.ofNat_toNat]

theorem endsInNumber_write (address : Ipv4) : endsInNumber address.write = true := by
  have digits : (Ascii.decimal (address.word.toNat % 256)).all Char.isDigit = true :=
    List.all_eq_true.mpr (isDigit_of_mem_decimal _)
  obtain ⟨first, rest, equal⟩ : ∃ first rest,
      Ascii.decimal (address.word.toNat % 256) = first :: rest :=
    List.exists_cons_of_ne_nil Nat.toDigits_ne_nil
  rw [equal] at digits
  simp only [endsInNumber, splitAt_write, bytes, List.map_cons, List.map_nil, List.reverse_cons,
    List.reverse_nil, List.nil_append, List.cons_append, equal, digits]
  rfl

/-- The text of an address is a domain name that stands for itself. -/
theorem toAscii_write (address : Ipv4) : Domain.toAscii? address.write = some address.write := by
  refine Domain.toAscii_of_isPlain _ (by simp [bytes]) (fun label inside character within => ?_)
    fun label inside => ?_
  · obtain ⟨value, -, rfl⟩ := List.mem_map.mp inside
    obtain ⟨plain, noDot, -⟩ := isPlain_of_mem_decimal value character within
    exact ⟨plain, noDot⟩
  · obtain ⟨value, -, rfl⟩ := List.mem_map.mp inside
    by_contra marked
    have start := List.isPrefixOf_iff_prefix.mp ((Bool.not_eq_false _).mp marked)
    exact (isPlain_of_mem_decimal value 'x' (start.subset (by decide))).2.2 rfl

end Ipv4

namespace Ipv6

theorem colon_notMem_hexDigits (value : Nat) :
    ∀ digit ∈ Ascii.hexDigits value, digit ≠ ':' ∧ digit ≠ '.' := by
  intro digit inside
  obtain ⟨place, small, rfl⟩ := exists_digit_of_mem_toDigits 16 (by decide) value digit inside
  have each : ∀ place < 16, place.digitChar ≠ ':' ∧ place.digitChar ≠ '.' := by decide
  exact each place small

/-- A group is read from its digits. -/
theorem group_hexDigits (group : UInt16) :
    group? (Ascii.hexDigits group.toNat) = some group := by
  have bound : group.toNat < 16 ^ 4 := group.toNat_lt
  have short := (Nat.length_toDigits_le_iff (b := 16) (by decide) (by decide)).mpr bound
  have long := Nat.length_toDigits_pos (b := 16) (n := group.toNat)
  have digits : (Ascii.hexDigits group.toNat).all (fun digit => (Ascii.hexValue? digit).isSome) =
      true := by
    rw [List.all_eq_true]
    intro digit inside
    obtain ⟨place, small, rfl⟩ :=
      exists_digit_of_mem_toDigits 16 (by decide) group.toNat digit inside
    rw [Ascii.hexValue_digitChar place small]
    rfl
  rw [group?, if_pos ⟨long, short, digits⟩, Ascii.hexDigits,
    Ascii.numberOf_toDigits 16 (by decide) (by decide), UInt16.ofNat_toNat]

theorem splitAt_writeGroups (groups : List UInt16) (some : groups ≠ []) :
    splitAt (· == ':') (writeGroups groups) =
      groups.map fun group => Ascii.hexDigits group.toNat :=
  splitAt_intercalate _ ':' _ rfl (by simpa using some) fun piece inside digit within => by
    obtain ⟨group, -, rfl⟩ := List.mem_map.mp inside
    simpa using (colon_notMem_hexDigits group.toNat digit within).1

/-- Groups are read from their digits, wherever they stand. -/
theorem groups_hexDigits (mayEndDotted : Bool) (groups : List UInt16) :
    groups? mayEndDotted (groups.map fun group => Ascii.hexDigits group.toNat) = some groups := by
  induction groups with
  | nil => rfl
  | cons first rest inductionHypothesis =>
    cases rest with
    | nil =>
      have noDot : '.' ∉ Ascii.hexDigits first.toNat := fun inside =>
        (colon_notMem_hexDigits first.toNat '.' inside).2 rfl
      simp [groups?, noDot, group_hexDigits]
    | cons next others =>
      simp only [List.map_cons] at inductionHypothesis ⊢
      simp [groups?, group_hexDigits, inductionHypothesis]

theorem side_writeGroups (mayEndDotted : Bool) (groups : List UInt16) :
    side? mayEndDotted (writeGroups groups) = some groups := by
  cases groups with
  | nil => rfl
  | cons first rest =>
    have some : (writeGroups (first :: rest)).isEmpty = false := by
      cases rest <;>
        simp [writeGroups, List.intercalate_cons_cons, Ascii.hexDigits, Nat.toDigits_ne_nil]
    simp only [side?, some, Bool.false_eq_true, if_false]
    rw [splitAt_writeGroups _ (by simp), groups_hexDigits]

/-- A gap is two colons next to each other. -/
theorem cutAtGap_cons (first : Char) (rest : List Char)
    (noGap : first = ':' → rest.head? ≠ some ':') :
    cutAtGap (first :: rest) = (cutAtGap rest).map fun parts => (first :: parts.1, parts.2) := by
  rw [cutAtGap.eq_def]
  split
  · simp_all
  · rename_i equal
    obtain ⟨rfl, rfl⟩ := List.cons.inj equal
    rfl
  · simp_all

/-- A text without colons holds no gap, nor does it start one. -/
theorem cutAtGap_append (front back : List Char) (plain : ∀ digit ∈ front, digit ≠ ':') :
    cutAtGap (front ++ back) =
      (cutAtGap back).map fun parts => (front ++ parts.1, parts.2) := by
  induction front with
  | nil => simp
  | cons first rest inductionHypothesis =>
    have noColon := plain first (List.mem_cons_self ..)
    rw [List.cons_append, cutAtGap_cons _ _ fun isColon => absurd isColon noColon,
      inductionHypothesis fun digit inside => plain digit (List.mem_cons_of_mem _ inside),
      Option.map_map]
    rfl

/-- Groups with a colon between them hold no gap, so a gap is looked for behind them. -/
theorem cutAtGap_writeGroups_append (groups : List UInt16) (back : List Char) :
    cutAtGap (writeGroups groups ++ back) =
      (cutAtGap back).map fun parts => (writeGroups groups ++ parts.1, parts.2) := by
  induction groups with
  | nil => simp [writeGroups]
  | cons group rest inductionHypothesis =>
    have plain : ∀ digit ∈ Ascii.hexDigits group.toNat, digit ≠ ':' :=
      fun digit inside => (colon_notMem_hexDigits group.toNat digit inside).1
    cases rest with
    | nil => simpa [writeGroups] using cutAtGap_append (Ascii.hexDigits group.toNat) back plain
    | cons next others =>
      have opened : writeGroups (group :: next :: others) =
          Ascii.hexDigits group.toNat ++ ':' :: writeGroups (next :: others) := by
        simp [writeGroups, List.intercalate_cons_cons]
      obtain ⟨digit, digits, isNext⟩ : ∃ digit digits,
          Ascii.hexDigits next.toNat = digit :: digits :=
        List.exists_cons_of_ne_nil Nat.toDigits_ne_nil
      have noColon : (writeGroups (next :: others) ++ back).head? ≠ some ':' := by
        have plainNext := (colon_notMem_hexDigits next.toNat digit (by simp [isNext])).1
        cases others <;> simpa [writeGroups, List.intercalate_cons_cons, isNext] using plainNext
      rw [opened, List.append_assoc, cutAtGap_append _ _ plain, List.cons_append,
        cutAtGap_cons _ _ fun _ => noColon, inductionHypothesis, Option.map_map, Option.map_map]
      congr 1
      funext parts
      simp

/-- A run of zeros at the front. -/
theorem replicate_zeros_append (groups : List UInt16) :
    List.replicate (zeros groups) 0 ++ groups.drop (zeros groups) = groups := by
  induction groups with
  | nil => rfl
  | cons group rest inductionHypothesis =>
    rw [zeros, List.takeWhile_cons]
    split
    case isTrue zero =>
      obtain rfl : group = 0 := by simpa using zero
      rw [List.length_cons, List.replicate_succ, List.drop_succ_cons, List.cons_append]
      exact congrArg _ inductionHypothesis
    case isFalse => rfl

/-- The first of the longest runs of zeros stands between the groups before it and those behind. -/
theorem longestRun_spec (groups : List UInt16) :
    groups.take (longestRun groups).1 ++ (List.replicate (longestRun groups).2 0 ++
      groups.drop ((longestRun groups).1 + (longestRun groups).2)) = groups := by
  induction groups with
  | nil => rfl
  | cons group rest inductionHypothesis =>
    rw [longestRun]
    split
    · rw [List.take_zero, List.nil_append, Nat.zero_add, replicate_zeros_append]
    · rw [List.take_succ_cons, List.cons_append, Nat.add_right_comm, List.drop_succ_cons,
        inductionHypothesis]

/-- An address is read from its text, with a gap or without one. -/
theorem read_write (address : Ipv6) : read? address.write = some address := by
  obtain ⟨groups, size⟩ := address
  have some : groups ≠ [] := by
    rintro rfl
    simp at size
  simp only [write]
  split
  case isTrue =>
    have noGap := cutAtGap_writeGroups_append groups []
    rw [List.append_nil] at noGap
    simp only [read?, noGap, splitAt_writeGroups groups some, groups_hexDigits]
    simp [cutAtGap, ofGroups?, size]
  case isFalse long =>
    have gap := cutAtGap_writeGroups_append (groups.take (longestRun groups).1)
      (':' :: ':' :: writeGroups (groups.drop ((longestRun groups).1 + (longestRun groups).2)))
    have whole := longestRun_spec groups
    have lengths := congrArg List.length whole
    simp only [List.length_append, List.length_replicate, size] at lengths
    rw [cutAtGap, Option.map_some, List.append_nil] at gap
    generalize (longestRun groups).1 = start, (longestRun groups).2 = count at *
    have room : (groups.take start).length + (groups.drop (start + count)).length ≤ 7 := by omega
    have filled : 8 - ((groups.take start).length + (groups.drop (start + count)).length) = count := by
      omega
    simp only [read?, gap, side_writeGroups, Option.bind_eq_bind, Option.bind_some, if_pos room,
      filled, List.append_assoc, whole]
    simp [ofGroups?, size]

end Ipv6

end ConfinedHttp
