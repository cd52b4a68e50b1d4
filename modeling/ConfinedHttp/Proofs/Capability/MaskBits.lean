import ConfinedHttp.Capability.Mask
import Mathlib.Data.Nat.Bitwise

/-!
Masks as sets of flags.  A mask whose bits all belong to flags is determined by its flags, and joining,
meeting and comparing such masks is what it is for sets.
-/

namespace ConfinedHttp

/-- The bit at a position is set. -/
def HasBit (bits : UInt32) (position : Nat) : Prop := bits.toNat.testBit position = true

section Bits

variable (left right : UInt32) (position : Nat)

theorem hasBit_or :
    HasBit (left ||| right) position ↔ HasBit left position ∨ HasBit right position := by
  simp [HasBit]

theorem hasBit_and :
    HasBit (left &&& right) position ↔ HasBit left position ∧ HasBit right position := by
  simp [HasBit]

theorem not_hasBit_zero : ¬ HasBit 0 position := by
  simp [HasBit]

/-- A number has no bit beyond its width. -/
theorem position_lt_of_hasBit (isSet : HasBit left position) : position < 32 := by
  by_contra large
  have small : left.toNat < 2 ^ position :=
    lt_of_lt_of_le left.toNat_lt (Nat.pow_le_pow_right (by decide) (not_lt.mp large))
  rw [HasBit, Nat.testBit_lt_two_pow small] at isSet
  cases isSet

theorem hasBit_not : HasBit (~~~left) position ↔ position < 32 ∧ ¬ HasBit left position := by
  have bound := left.toNat_lt
  have complement : (~~~left).toNat = 2 ^ 32 - (left.toNat + 1) := by
    rw [UInt32.toNat_not, UInt32.size]
    omega
  rw [HasBit, complement, Nat.testBit_two_pow_sub_succ bound]
  simp [HasBit]

/-- What is left of a number without the bits of another one. -/
theorem hasBit_and_not :
    HasBit (left &&& ~~~right) position ↔ HasBit left position ∧ ¬ HasBit right position := by
  rw [hasBit_and, hasBit_not]
  exact and_congr_right fun isSet => and_iff_right (position_lt_of_hasBit left position isSet)

variable {left right}

theorem eq_of_hasBit (same : ∀ position, HasBit left position ↔ HasBit right position) :
    left = right := by
  rw [← UInt32.toNat_inj]
  exact Nat.eq_of_testBit_eq fun position => Bool.eq_iff_iff.mpr (same position)

theorem eq_zero_iff_hasBit : left = 0 ↔ ∀ position, ¬ HasBit left position := by
  constructor
  · rintro rfl
    exact not_hasBit_zero
  · intro none
    exact eq_of_hasBit fun position => iff_of_false (none position) (not_hasBit_zero position)

end Bits

namespace Flag

/-- The position of the bit of a flag. -/
def position : Flag → Nat
  | access => 0
  | browse => 1
  | update => 2
  | commit => 3

theorem hasBit_bit (flag : Flag) (position : Nat) :
    HasBit flag.bit position ↔ flag.position = position := by
  have power : flag.bit.toNat = 2 ^ flag.position := by cases flag <;> rfl
  rw [HasBit, power, Nat.testBit_two_pow, decide_eq_true_eq]

theorem position_injective : Function.Injective position := by
  intro first second same
  cases first <;> cases second <;> first | rfl | cases same

theorem mem_all (flag : Flag) : flag ∈ all := by
  cases flag <;> decide

end Flag

namespace Mask

/-- Every bit of the mask belongs to a flag. -/
def IsKnown (mask : Mask) : Prop :=
  ∀ position, HasBit mask.bits position → ∃ flag : Flag, HasBit flag.bit position

section Flags

variable (left right mask : Mask) (flag : Flag)

theorem hasBit_knownBits (position : Nat) :
    HasBit knownBits position ↔ ∃ flag : Flag, HasBit flag.bit position := by
  have gather (flags : List Flag) (bits : UInt32) :
      HasBit (flags.foldl (fun bits flag => bits ||| flag.bit) bits) position ↔
        HasBit bits position ∨ ∃ flag ∈ flags, HasBit flag.bit position := by
    induction flags generalizing bits with
    | nil => simp
    | cons first rest inductionHypothesis =>
      simp only [List.foldl_cons, inductionHypothesis, hasBit_or, or_assoc, List.mem_cons,
        exists_eq_or_imp]
  rw [knownBits, gather, or_iff_right (not_hasBit_zero position)]
  exact exists_congr fun flag => and_iff_right flag.mem_all

theorem hasBit_unknown (bits : UInt32) (position : Nat) :
    HasBit (bits &&& ~~~knownBits) position ↔
      HasBit bits position ∧ ¬ ∃ flag : Flag, HasBit flag.bit position := by
  rw [hasBit_and_not, hasBit_knownBits]

theorem isKnown_iff : mask.IsKnown ↔ mask.bits &&& ~~~knownBits = 0 := by
  simp only [eq_zero_iff_hasBit, hasBit_unknown, not_and, not_not]
  rfl

theorem contains_iff : mask.contains flag = true ↔ HasBit mask.bits flag.position := by
  rw [contains, bne_iff_ne, ne_eq, eq_zero_iff_hasBit]
  simp only [hasBit_and, flag.hasBit_bit]
  simp

theorem mem_flags_iff : flag ∈ mask.flags ↔ HasBit mask.bits flag.position := by
  rw [flags, List.mem_filter, contains_iff]
  exact and_iff_right flag.mem_all

/-- Masks whose bits are known are told apart by their flags. -/
theorem eq_of_flags {left right : Mask} (leftKnown : left.IsKnown) (rightKnown : right.IsKnown)
    (same : ∀ flag, flag ∈ left.flags ↔ flag ∈ right.flags) : left = right := by
  simp only [mem_flags_iff] at same
  have bits : left.bits = right.bits := eq_of_hasBit fun position => by
    constructor
    · intro isSet
      obtain ⟨flag, isFlag⟩ := leftKnown position isSet
      rw [flag.hasBit_bit] at isFlag
      exact isFlag ▸ (same flag).mp (isFlag ▸ isSet)
    · intro isSet
      obtain ⟨flag, isFlag⟩ := rightKnown position isSet
      rw [flag.hasBit_bit] at isFlag
      exact isFlag ▸ (same flag).mpr (isFlag ▸ isSet)
  rwa [Mask.mk.injEq]

@[simp] theorem mem_flags_union :
    flag ∈ (left.union right).flags ↔ flag ∈ left.flags ∨ flag ∈ right.flags := by
  simp only [mem_flags_iff, union, hasBit_or]

@[simp] theorem mem_flags_inter :
    flag ∈ (left.inter right).flags ↔ flag ∈ left.flags ∧ flag ∈ right.flags := by
  simp only [mem_flags_iff, inter, hasBit_and]

@[simp] theorem mem_flags_ofFlag (other : Flag) : other ∈ (ofFlag flag).flags ↔ other = flag := by
  rw [mem_flags_iff, ofFlag, flag.hasBit_bit, Flag.position_injective.eq_iff, eq_comm]

theorem isKnown_empty : empty.IsKnown := fun position isSet =>
  absurd isSet (not_hasBit_zero position)

theorem isKnown_ofFlag : (ofFlag flag).IsKnown := fun _ isSet => ⟨flag, isSet⟩

variable {left right}

theorem IsKnown.union (leftKnown : left.IsKnown) (rightKnown : right.IsKnown) :
    (left.union right).IsKnown := by
  intro position isSet
  exact ((hasBit_or ..).mp isSet).elim (leftKnown position) (rightKnown position)

theorem IsKnown.inter (leftKnown : left.IsKnown) : (left.inter right).IsKnown := by
  intro position isSet
  exact leftKnown position ((hasBit_and ..).mp isSet).1

end Flags

section Validation

variable (bits : UInt32)

theorem ofBits_eq_ok_iff (mask : Mask) :
    ofBits bits = .ok mask ↔ mask.bits = bits ∧ mask.IsKnown := by
  rw [ofBits, isKnown_iff]
  constructor
  · intro accepted
    split at accepted
    case isTrue known =>
      obtain rfl := Except.ok.inj accepted
      exact ⟨rfl, known⟩
    case isFalse => cases accepted
  · rintro ⟨rfl, known⟩
    exact if_pos known

/-- Bits that belong to no flag are refused, and exactly those are reported. -/
theorem ofBits_of_not_isKnown (unknown : ¬ IsKnown ⟨bits⟩) :
    ofBits bits = .error (.unknownBits (bits &&& ~~~knownBits)) := by
  rw [isKnown_iff] at unknown
  exact if_neg unknown

end Validation

section Combining

theorem combine_eq_error_iff (masks : List Mask) (cause : InputError) :
    combine masks = .error cause ↔ masks = [] ∧ cause = .noFlags := by
  cases masks with
  | nil => simp [combine, eq_comm]
  | cons first rest => simp [combine]

/-- Joined masks have the bits of all of them. -/
theorem hasBit_combine (masks : List Mask) (joined : Mask) (isJoined : combine masks = .ok joined)
    (position : Nat) :
    HasBit joined.bits position ↔ ∃ mask ∈ masks, HasBit mask.bits position := by
  have gather (others : List Mask) (first : Mask) :
      HasBit (others.foldl union first).bits position ↔
        ∃ mask ∈ first :: others, HasBit mask.bits position := by
    induction others generalizing first with
    | nil => simp
    | cons next rest inductionHypothesis =>
      simp only [List.foldl_cons, inductionHypothesis, List.mem_cons, exists_eq_or_imp, union,
        hasBit_or, or_assoc]
  cases masks with
  | nil => cases isJoined
  | cons first rest =>
    obtain rfl := Except.ok.inj isJoined
    exact gather rest first

theorem mem_flags_combine (masks : List Mask) (joined : Mask) (isJoined : combine masks = .ok joined)
    (flag : Flag) : flag ∈ joined.flags ↔ ∃ mask ∈ masks, flag ∈ mask.flags := by
  simp only [mem_flags_iff, hasBit_combine masks joined isJoined]

theorem isKnown_combine (masks : List Mask) (known : ∀ mask ∈ masks, mask.IsKnown) (joined : Mask)
    (isJoined : combine masks = .ok joined) : joined.IsKnown := by
  intro position isSet
  obtain ⟨mask, inside, isIn⟩ := (hasBit_combine masks joined isJoined position).mp isSet
  exact known mask inside position isIn

/-- Neither the order of masks counts nor how often one of them is listed. -/
theorem combine_congr (masks others : List Mask) (same : ∀ mask, mask ∈ masks ↔ mask ∈ others) :
    combine masks = combine others := by
  cases first : combine masks with
  | error cause =>
    obtain ⟨rfl, rfl⟩ := (combine_eq_error_iff masks cause).mp first
    have none : others = [] := List.eq_nil_iff_forall_not_mem.mpr fun mask => by
      simp [← same mask]
    exact ((combine_eq_error_iff others _).mpr ⟨none, rfl⟩).symm
  | ok joined =>
    cases second : combine others with
    | error cause =>
      obtain ⟨rfl, rfl⟩ := (combine_eq_error_iff others cause).mp second
      have none : masks = [] := List.eq_nil_iff_forall_not_mem.mpr fun mask => by
        simp [same mask]
      rw [none] at first
      cases first
    | ok again =>
      have bits : joined.bits = again.bits := eq_of_hasBit fun position => by
        simp only [hasBit_combine masks joined first, hasBit_combine others again second, same]
      rw [Except.ok.injEq, Mask.mk.injEq]
      exact bits

/-- The flags of a mask make it up again, unless it has none. -/
theorem combine_flags (mask : Mask) (known : mask.IsKnown) (some : mask.isEmpty = false) :
    combine (mask.flags.map ofFlag) = .ok mask := by
  cases isJoined : combine (mask.flags.map ofFlag) with
  | error cause =>
    obtain ⟨none, -⟩ := (combine_eq_error_iff _ _).mp isJoined
    rw [List.map_eq_nil_iff] at none
    have isEmpty : mask = empty := eq_of_flags known isKnown_empty fun flag => by
      rw [none, mem_flags_iff]
      exact iff_of_false List.not_mem_nil (not_hasBit_zero _)
    rw [isEmpty] at some
    cases some
  | ok joined =>
    have joinedKnown := isKnown_combine _ (by simp [isKnown_ofFlag]) joined isJoined
    rw [eq_of_flags joinedKnown known fun flag => by
      simp [mem_flags_combine _ joined isJoined]]

end Combining

section Comparing

variable (left right : Mask)

theorem isSubset_iff :
    left.isSubset right = true ↔
      ∀ position, HasBit left.bits position → HasBit right.bits position := by
  rw [isSubset, beq_iff_eq, eq_zero_iff_hasBit]
  simp only [hasBit_and_not, not_and, not_not]

theorem isSubset_iff_flags (known : left.IsKnown) :
    left.isSubset right = true ↔ ∀ flag ∈ left.flags, flag ∈ right.flags := by
  simp only [isSubset_iff, mem_flags_iff]
  constructor
  · exact fun subset flag => subset flag.position
  · intro subset position isSet
    obtain ⟨flag, isFlag⟩ := known position isSet
    rw [flag.hasBit_bit] at isFlag
    exact isFlag ▸ subset flag (isFlag ▸ isSet)

theorem isSubset_iff_union : left.isSubset right = true ↔ left.union right = right := by
  rw [isSubset_iff, Mask.mk.injEq]
  constructor
  · intro subset
    exact eq_of_hasBit fun position => by
      rw [union, hasBit_or]
      exact or_iff_right_of_imp (subset position)
  · intro same position isSet
    rw [← same]
    exact (hasBit_or ..).mpr (.inl isSet)

end Comparing

end Mask

end ConfinedHttp
