import ConfinedHttp.Proofs.Text.Utf8Reading
import ConfinedHttp.Text.Base64

namespace ConfinedHttp.Base64

/-- The bits of a value, the most significant first. -/
def bits (count value : Nat) : List Bool :=
  (List.range count).reverse.map fun place => value / 2 ^ place % 2 = 1

/-- The value of a digit.  Capital letters come first, then small letters, decimal digits, the plus
sign and the slash. -/
inductive HasValue : Char → Nat → Prop
  | capital (place : Nat) (inside : place < 26) : HasValue (Char.ofNat (65 + place)) place
  | small (place : Nat) (inside : place < 26) : HasValue (Char.ofNat (97 + place)) (26 + place)
  | decimal (place : Nat) (inside : place < 10) : HasValue (Char.ofNat (48 + place)) (52 + place)
  | plus : HasValue '+' 62
  | slash : HasValue '/' 63

/-- Bytes in base 64.  Each digit stands for six bits.  Padding fills the last group of four, and two
zeros stand behind the bits of the bytes for each sign of it. -/
structure Encodes (bytes : Bytes) (text : List Char) : Prop where
  written : ∃ (digits : List Char) (values : List Nat) (padding : Nat), padding ≤ 2 ∧
    text = digits ++ List.replicate padding '=' ∧ List.Forall₂ HasValue digits values ∧
    values.flatMap (bits 6) =
      (bytes.flatMap fun byte => bits 8 byte.toNat) ++ List.replicate (2 * padding) false
  whole : 4 ∣ text.length

theorem hasValue_digit (value : Nat) (small : value < 64) : HasValue (digit value) value := by
  have capital : ∀ place < 26, digit place = Char.ofNat (65 + place) := by decide
  have letter : ∀ place < 26, digit (26 + place) = Char.ofNat (97 + place) := by decide
  have decimal : ∀ place < 10, digit (52 + place) = Char.ofNat (48 + place) := by decide
  obtain inside | ⟨place, inside, rfl⟩ | ⟨place, inside, rfl⟩ | rfl | rfl :
      value < 26 ∨ (∃ place < 26, value = 26 + place) ∨ (∃ place < 10, value = 52 + place) ∨
        value = 62 ∨ value = 63 := by
    by_cases first : value < 26
    · exact .inl first
    by_cases second : value < 52
    · exact .inr (.inl ⟨value - 26, by omega, by omega⟩)
    by_cases third : value < 62
    · exact .inr (.inr (.inl ⟨value - 52, by omega, by omega⟩))
    · omega
  · exact capital value inside ▸ .capital value inside
  · exact letter place inside ▸ .small place inside
  · exact decimal place inside ▸ .decimal place inside
  · exact .plus
  · exact .slash

/-- A digit is visible, and it is no padding. -/
theorem HasValue.visible {character : Char} {value : Nat} (isDigit : HasValue character value) :
    ' ' < character ∧ character < '\x7f' ∧ character ≠ '=' := by
  have each (first count : Nat) (inside : (List.range count).all fun place =>
      ' ' < Char.ofNat (first + place) && Char.ofNat (first + place) < '\x7f' &&
        Char.ofNat (first + place) != '=') (place : Nat) (small : place < count) :
      ' ' < Char.ofNat (first + place) ∧ Char.ofNat (first + place) < '\x7f' ∧
        Char.ofNat (first + place) ≠ '=' := by
    simpa [and_assoc] using List.all_eq_true.mp inside place (List.mem_range.mpr small)
  cases isDigit with
  | capital _ small => exact each 65 26 (by decide) _ small
  | small _ small => exact each 97 26 (by decide) _ small
  | decimal _ small => exact each 48 10 (by decide) _ small
  | plus => decide
  | slash => decide

section Groups

variable (first second third : UInt8)

theorem bits_of_one :
    bits 6 (first.toNat / 4) ++ bits 6 (first.toNat % 4 * 16) =
      bits 8 first.toNat ++ List.replicate 4 false := by
  have boundFirst := first.toNat_lt
  simp [bits, List.range_succ, List.replicate_succ]
  omega

theorem bits_of_two :
    bits 6 (first.toNat / 4) ++ (bits 6 (first.toNat % 4 * 16 + second.toNat / 16) ++
        bits 6 (second.toNat % 16 * 4)) =
      bits 8 first.toNat ++ (bits 8 second.toNat ++ List.replicate 2 false) := by
  have boundFirst := first.toNat_lt
  have boundSecond := second.toNat_lt
  simp [bits, List.range_succ, List.replicate_succ]
  omega

theorem bits_of_three :
    bits 6 (first.toNat / 4) ++ (bits 6 (first.toNat % 4 * 16 + second.toNat / 16) ++
        (bits 6 (second.toNat % 16 * 4 + third.toNat / 64) ++ bits 6 (third.toNat % 64))) =
      bits 8 first.toNat ++ (bits 8 second.toNat ++ bits 8 third.toNat) := by
  have boundFirst := first.toNat_lt
  have boundSecond := second.toNat_lt
  have boundThird := third.toNat_lt
  simp [bits, List.range_succ]
  omega

end Groups

/-- Bytes are written in base 64, with one case for each size of the last group. -/
theorem encodes_encode (bytes : Bytes) : Encodes bytes (encode bytes) := by
  induction bytes using encode.induct with
  | case1 => exact ⟨⟨[], [], 0, by decide, rfl, .nil, rfl⟩, by decide⟩
  | case2 first =>
    have boundFirst := first.toNat_lt
    refine ⟨⟨_, _, 2, by decide, rfl, .cons (hasValue_digit (first.toNat / 4) (by omega))
      (.cons (hasValue_digit (first.toNat % 4 * 16) (by omega)) .nil), ?_⟩, by simp [encode]⟩
    simpa using bits_of_one first
  | case3 first second =>
    have boundFirst := first.toNat_lt
    have boundSecond := second.toNat_lt
    refine ⟨⟨_, _, 1, by decide, rfl, .cons (hasValue_digit (first.toNat / 4) (by omega))
      (.cons (hasValue_digit (first.toNat % 4 * 16 + second.toNat / 16) (by omega))
        (.cons (hasValue_digit (second.toNat % 16 * 4) (by omega)) .nil)), ?_⟩, by simp [encode]⟩
    simpa using bits_of_two first second
  | case4 first second third rest inductionHypothesis =>
    obtain ⟨⟨digits, values, padding, few, written, each, same⟩, whole⟩ := inductionHypothesis
    have boundFirst := first.toNat_lt
    have boundSecond := second.toNat_lt
    have boundThird := third.toNat_lt
    refine ⟨⟨_, _, padding, few, ?_, .cons (hasValue_digit (first.toNat / 4) (by omega))
      (.cons (hasValue_digit (first.toNat % 4 * 16 + second.toNat / 16) (by omega))
        (.cons (hasValue_digit (second.toNat % 16 * 4 + third.toNat / 64) (by omega))
          (.cons (hasValue_digit (third.toNat % 64) (by omega)) each))), ?_⟩, ?_⟩
    · rw [encode, written]
      rfl
    · have group := bits_of_three first second third
      simp only [List.flatMap_cons, same, ← List.append_assoc] at group ⊢
      rw [group]
    · rw [encode]
      simpa using (Nat.dvd_add_left (Nat.dvd_refl 4)).mpr whole

section Reading

theorem digitValue?_digit (value : Nat) (small : value < 64) :
    digitValue? (digit value) = some value := by
  revert value
  decide +kernel

theorem digit_ne_padding (value : Nat) (small : value < 64) : digit value ≠ '=' :=
  (hasValue_digit value small).visible.2.2

theorem ofNat_eq {value : Nat} {byte : UInt8} (same : value = byte.toNat) :
    UInt8.ofNat value = byte := by
  rw [same, UInt8.ofNat_toNat]

/-- What was written is read again. -/
theorem decode?_encode (bytes : Bytes) : decode? (encode bytes) = some bytes := by
  induction bytes using encode.induct with
  | case1 => rfl
  | case2 first =>
    have boundFirst := first.toNat_lt
    have isFirst : UInt8.ofNat (first.toNat / 4 * 4 + first.toNat % 4 * 16 / 16) = first :=
      ofNat_eq (by omega)
    rw [encode, decode?, digitValue?_digit (first.toNat / 4) (by omega),
      digitValue?_digit (first.toNat % 4 * 16) (by omega)]
    simp only [Option.bind_eq_bind, Option.bind_some, Nat.mul_mod_left, if_true, isFirst]
  | case3 first second =>
    have boundFirst := first.toNat_lt
    have boundSecond := second.toNat_lt
    have notPadding := digit_ne_padding (second.toNat % 16 * 4) (by omega)
    have isFirst : UInt8.ofNat (first.toNat / 4 * 4 +
        (first.toNat % 4 * 16 + second.toNat / 16) / 16) = first := ofNat_eq (by omega)
    have isSecond : UInt8.ofNat ((first.toNat % 4 * 16 + second.toNat / 16) % 16 * 16 +
        second.toNat % 16 * 4 / 4) = second := ofNat_eq (by omega)
    rw [encode, decode?, digitValue?_digit (first.toNat / 4) (by omega),
      digitValue?_digit (first.toNat % 4 * 16 + second.toNat / 16) (by omega),
      digitValue?_digit (second.toNat % 16 * 4) (by omega)]
    · simp only [Option.bind_eq_bind, Option.bind_some, Nat.mul_mod_left, if_true, isFirst,
        isSecond]
    · exact notPadding
  | case4 first second third rest inductionHypothesis =>
    have boundFirst := first.toNat_lt
    have boundSecond := second.toNat_lt
    have boundThird := third.toNat_lt
    have notPadding := digit_ne_padding (third.toNat % 64) (by omega)
    have isFirst : UInt8.ofNat (first.toNat / 4 * 4 +
        (first.toNat % 4 * 16 + second.toNat / 16) / 16) = first := ofNat_eq (by omega)
    have isSecond : UInt8.ofNat ((first.toNat % 4 * 16 + second.toNat / 16) % 16 * 16 +
        (second.toNat % 16 * 4 + third.toNat / 64) / 4) = second := ofNat_eq (by omega)
    have isThird : UInt8.ofNat ((second.toNat % 16 * 4 + third.toNat / 64) % 4 * 64 +
        third.toNat % 64) = third := ofNat_eq (by omega)
    rw [encode, decode?, digitValue?_digit (first.toNat / 4) (by omega),
      digitValue?_digit (first.toNat % 4 * 16 + second.toNat / 16) (by omega),
      digitValue?_digit (second.toNat % 16 * 4 + third.toNat / 64) (by omega),
      digitValue?_digit (third.toNat % 64) (by omega), inductionHypothesis]
    · simp only [Option.bind_eq_bind, Option.bind_some, isFirst, isSecond, isThird]
    · intro _ isPadding
      exact absurd isPadding notPadding
    · exact fun isPadding => absurd isPadding notPadding

end Reading

end ConfinedHttp.Base64
