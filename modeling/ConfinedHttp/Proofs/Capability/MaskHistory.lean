import ConfinedHttp.Proofs.Capability.MaskBits
import ConfinedHttp.Proofs.Json.ReaderAgreement
import Mathlib.Logic.Function.Basic

/-!
A program holds masks and makes new ones, from stored bits, from texts, from flags and from masks that
it holds already.  Whatever it does, in any order and however often, it never holds a bit that belongs
to no flag, and its masks behave as sets of flags.
-/

namespace ConfinedHttp

namespace Mask

open Json (Decoder Takes)

section Stored

variable {input rest text : Bytes}

/-- The decoder of masks reads a mask exactly where any value is read as its number, and never one with
an unknown bit. -/
theorem takes_decoder_iff (mask : Mask) :
    Takes (decoder input) mask rest ↔
      Takes (Decoder.any input) mask.toJson rest ∧ mask.IsKnown := by
  have accepted (bits : UInt32) : (ofBits bits).toOption = some mask ↔ ofBits bits = .ok mask := by
    cases ofBits bits <;> simp [Except.toOption]
  have number (value : Int) : Takes (Decoder.integer 0 4294967295 input) value rest ↔
      (0 ≤ value ∧ value ≤ 4294967295) ∧
        Takes (Decoder.any input) (.number (.integer value)) rest :=
    Json.takes_decodeValue_integer_iff
  rw [decoder, Json.takes_refine_iff]
  simp only [number, accepted, ofBits_eq_ok_iff]
  constructor
  · rintro ⟨value, ⟨⟨least, greatest⟩, taken⟩, bits, known⟩
    have whole : (mask.bits.toNat : Int) = value := by
      rw [bits, UInt32.toNat_ofNat', Int.natCast_emod, Int.toNat_of_nonneg least]
      omega
    rw [toJson, whole]
    exact ⟨taken, known⟩
  · rintro ⟨taken, known⟩
    have bound := mask.bits.toNat_lt
    exact ⟨mask.bits.toNat, ⟨⟨by omega, by omega⟩, taken⟩, by simp, known⟩

/-- A document holds a mask exactly when it holds its number, and no unknown bit is set. -/
theorem document_decoder_iff (mask : Mask) :
    decoder.document text = .ok mask ↔
      Decoder.any.document text = .ok mask.toJson ∧ mask.IsKnown := by
  simp only [Json.document_eq_ok_iff, takes_decoder_iff]
  constructor
  · rintro ⟨rest, ⟨taken, known⟩, ends⟩
    exact ⟨⟨rest, taken, ends⟩, known⟩
  · rintro ⟨⟨rest, taken, ends⟩, known⟩
    exact ⟨rest, ⟨taken, known⟩, ends⟩

/-- A document that holds a number with an unknown bit is refused. -/
theorem document_decoder_of_not_isKnown (mask : Mask) (unknown : ¬ mask.IsKnown)
    (read : Decoder.any.document text = .ok mask.toJson) :
    decoder.document text = .error (Json.here .unsuitable) := by
  obtain ⟨rest, taken, -⟩ := (Json.document_eq_ok_iff ..).mp read
  have bound := mask.bits.toNat_lt
  have number : Takes (Decoder.integer 0 4294967295 text) mask.bits.toNat rest :=
    Json.takes_decodeValue_integer_iff.mpr ⟨⟨by omega, by omega⟩, taken⟩
  refine Json.document_refine_of_none number ?_
  rw [Int.toNat_natCast, UInt32.ofNat_toNat, ofBits_of_not_isKnown _ unknown]
  rfl

theorem fits_toJson (mask : Mask) : mask.toJson.Fits Json.greatestDepth := by
  refine .scalar _ (.integer _ ?_)
  have bound := mask.bits.toNat_lt
  rw [Json.Literal.IsWord, Json.Literal.signedSize, Json.Literal.wordSize]
  omega

end Stored

/-- The masks that a program holds, by slot. -/
abbrev Held := Nat → Mask

/-- What masks are joined from: a flag, or a mask that is held. -/
inductive Operand where
  | flag (single : Flag)
  | held (slot : Nat)

def Operand.mask (masks : Held) : Operand → Mask
  | flag single => ofFlag single
  | held slot => masks slot

/-- The ways to make a mask: from stored bits, from a text, and from operands. -/
inductive Construction where
  | bits (number : UInt32)
  | text (document : Bytes)
  | join (left right : Operand)
  | meet (left right : Operand)
  | combine (operands : List Operand)

/-- Why no mask is made. -/
inductive Refusal where
  | input (cause : InputError)
  | json (failure : Json.Failure)

namespace Construction

/-- This function makes a mask. -/
def build (masks : Held) : Construction → Except Refusal Mask
  | bits number => (ofBits number).mapError .input
  | text document => (decoder.document document).mapError .json
  | join left right => .ok ((left.mask masks).union (right.mask masks))
  | meet left right => .ok ((left.mask masks).inter (right.mask masks))
  | combine operands => (Mask.combine (operands.map (·.mask masks))).mapError .input

/-- What is asked of stored bits, of the number in a text and of operands. -/
def IsAccepted : Construction → Prop
  | bits number => IsKnown ⟨number⟩
  | text document => ∃ number : UInt32,
    Decoder.any.document document = .ok (.number (.integer number.toNat)) ∧ IsKnown ⟨number⟩
  | join _ _ => True
  | meet _ _ => True
  | combine operands => operands ≠ []

/-- The flags that the result should have.  Those of operands are taken as sets. -/
def Grants (masks : Held) (flag : Flag) : Construction → Prop
  | bits number => HasBit number flag.position
  | text document => ∃ number : UInt32,
    Decoder.any.document document = .ok (.number (.integer number.toNat)) ∧
      HasBit number flag.position
  | join left right => flag ∈ (left.mask masks).flags ∨ flag ∈ (right.mask masks).flags
  | meet left right => flag ∈ (left.mask masks).flags ∧ flag ∈ (right.mask masks).flags
  | combine operands => ∃ operand ∈ operands, flag ∈ (operand.mask masks).flags

end Construction

/-- A step makes a mask for a slot.  Joining in place is a join whose left side is the target. -/
structure Step where
  target : Nat
  construction : Construction

/-- This function takes a step.  When no mask is made, all slots stay as they are. -/
def Step.apply (masks : Held) (step : Step) : Held :=
  match step.construction.build masks with
  | .ok mask => Function.update masks step.target mask
  | .error _ => masks

/-- The masks after some steps.  At first every slot is empty. -/
def heldAfter (steps : List Step) : Held := steps.foldl Step.apply fun _ => empty

/-- What holds of a mask whatever it was made from: it has no unknown bit, its flags make it up again
unless it has none, and it is read back from its own text. -/
structure IsLawful (mask : Mask) : Prop where
  known : mask.IsKnown
  rebuilt : mask.isEmpty = false → combine (mask.flags.map ofFlag) = .ok mask
  reread : decoder.document (textBytes mask.toJson.text) = .ok mask

theorem IsKnown.isLawful {mask : Mask} (known : mask.IsKnown) : mask.IsLawful where
  known := known
  rebuilt := combine_flags mask known
  reread := (document_decoder_iff mask).mpr ⟨Json.document_text _ mask.fits_toJson, known⟩

section Steps

theorem mapError_eq_ok_iff {ε ε' α : Type} {result : Except ε α} {blame : ε → ε'} {value : α} :
    result.mapError blame = .ok value ↔ result = .ok value := by
  cases result <;> simp [Except.mapError]

theorem mapError_eq_error_iff {ε ε' α : Type} {result : Except ε α} {blame : ε → ε'} {cause : ε'} :
    result.mapError blame = .error cause ↔ ∃ inner, result = .error inner ∧ blame inner = cause := by
  cases result <;> simp [Except.mapError]

variable {masks : Held} (allKnown : ∀ slot, (masks slot).IsKnown)

include allKnown in
theorem isKnown_operand (operand : Operand) : (operand.mask masks).IsKnown := by
  cases operand with
  | flag single => exact isKnown_ofFlag single
  | held slot => exact allKnown slot

include allKnown in
/-- No way to make a mask sets an unknown bit. -/
theorem isKnown_build (construction : Construction) (mask : Mask)
    (built : construction.build masks = .ok mask) : mask.IsKnown := by
  cases construction with
  | bits number => exact ((ofBits_eq_ok_iff number mask).mp (mapError_eq_ok_iff.mp built)).2
  | text document => exact ((document_decoder_iff mask).mp (mapError_eq_ok_iff.mp built)).2
  | join left right =>
    obtain rfl := Except.ok.inj built
    exact (isKnown_operand allKnown left).union (isKnown_operand allKnown right)
  | meet left right =>
    obtain rfl := Except.ok.inj built
    exact (isKnown_operand allKnown left).inter
  | combine operands =>
    refine isKnown_combine _ (fun joined inside => ?_) mask (mapError_eq_ok_iff.mp built)
    obtain ⟨operand, -, rfl⟩ := List.mem_map.mp inside
    exact isKnown_operand allKnown operand

theorem Step.apply_of_ok (step : Step) (mask : Mask)
    (built : step.construction.build masks = .ok mask) :
    step.apply masks = Function.update masks step.target mask := by
  rw [Step.apply, built]

theorem Step.apply_of_error (step : Step) (refusal : Refusal)
    (refused : step.construction.build masks = .error refusal) : step.apply masks = masks := by
  rw [Step.apply, refused]

include allKnown in
/-- A step keeps every mask free of unknown bits. -/
theorem isKnown_apply (step : Step) (slot : Nat) : (step.apply masks slot).IsKnown := by
  cases built : step.construction.build masks with
  | error refusal =>
    rw [step.apply_of_error refusal built]
    exact allKnown slot
  | ok mask =>
    rw [step.apply_of_ok mask built]
    by_cases isTarget : slot = step.target
    · rw [isTarget, Function.update_self]
      exact isKnown_build allKnown _ mask built
    · rw [Function.update_of_ne isTarget]
      exact allKnown slot

theorem isKnown_heldAfter (steps : List Step) (slot : Nat) : (heldAfter steps slot).IsKnown := by
  have run (masks : Held) (allKnown : ∀ slot, (masks slot).IsKnown) :
      ∀ slot, (steps.foldl Step.apply masks slot).IsKnown := by
    induction steps generalizing masks with
    | nil => exact allKnown
    | cons step rest inductionHypothesis =>
      exact inductionHypothesis _ (isKnown_apply allKnown step)
  exact run _ (fun _ => isKnown_empty) slot

theorem heldAfter_append (steps : List Step) (step : Step) :
    heldAfter (steps ++ [step]) = step.apply (heldAfter steps) := by
  rw [heldAfter, List.foldl_append]
  rfl

theorem exists_build_iff (construction : Construction) :
    (∃ mask, construction.build masks = .ok mask) ↔ construction.IsAccepted := by
  cases construction with
  | bits number =>
    simp only [Construction.build, mapError_eq_ok_iff, ofBits_eq_ok_iff]
    exact ⟨fun ⟨_, same, known⟩ => same ▸ known, fun known => ⟨⟨number⟩, rfl, known⟩⟩
  | text document =>
    simp only [Construction.build, mapError_eq_ok_iff, document_decoder_iff]
    exact ⟨fun ⟨mask, read⟩ => ⟨mask.bits, read⟩, fun ⟨number, read⟩ => ⟨⟨number⟩, read⟩⟩
  | join left right => exact iff_of_true ⟨_, rfl⟩ trivial
  | meet left right => exact iff_of_true ⟨_, rfl⟩ trivial
  | combine operands =>
    cases operands with
    | nil => simp [Construction.build, Construction.IsAccepted, Mask.combine, Except.mapError]
    | cons first rest => exact iff_of_true ⟨_, rfl⟩ (List.cons_ne_nil _ _)

/-- The flags of a result are the union of those of its operands, or what they share. -/
theorem mem_flags_build (construction : Construction) (mask : Mask)
    (built : construction.build masks = .ok mask) (flag : Flag) :
    flag ∈ mask.flags ↔ construction.Grants masks flag := by
  cases construction with
  | bits number =>
    obtain ⟨rfl, -⟩ := (ofBits_eq_ok_iff number mask).mp (mapError_eq_ok_iff.mp built)
    exact mem_flags_iff mask flag
  | text document =>
    obtain ⟨read, -⟩ := (document_decoder_iff mask).mp (mapError_eq_ok_iff.mp built)
    rw [mem_flags_iff]
    constructor
    · exact fun isSet => ⟨mask.bits, read, isSet⟩
    · rintro ⟨number, again, isSet⟩
      have same := Except.ok.inj (read.symm.trans again)
      simp only [toJson, Json.Value.number.injEq, Json.Number.integer.injEq, Int.natCast_inj,
        UInt32.toNat_inj] at same
      rwa [same]
  | join left right =>
    obtain rfl := Except.ok.inj built
    exact mem_flags_union _ _ flag
  | meet left right =>
    obtain rfl := Except.ok.inj built
    exact mem_flags_inter _ _ flag
  | combine operands =>
    rw [mem_flags_combine _ mask (mapError_eq_ok_iff.mp built)]
    simp [Construction.Grants]

/-- Unknown bits are refused, and exactly they are reported. -/
theorem build_bits_of_not_isKnown (number : UInt32) (unknown : ¬ IsKnown ⟨number⟩) :
    ∃ reported, Construction.build masks (.bits number) = .error (.input (.unknownBits reported)) ∧
      ∀ position, HasBit reported position ↔
        HasBit number position ∧ ¬ ∃ flag : Flag, HasBit flag.bit position :=
  ⟨_, mapError_eq_error_iff.mpr ⟨_, ofBits_of_not_isKnown number unknown, rfl⟩,
    hasBit_unknown number⟩

theorem build_text_of_not_isKnown (number : UInt32) (unknown : ¬ IsKnown ⟨number⟩)
    (document : Bytes)
    (read : Decoder.any.document document = .ok (.number (.integer number.toNat))) :
    Construction.build masks (.text document) = .error (.json (Json.here .unsuitable)) :=
  mapError_eq_error_iff.mpr ⟨_, document_decoder_of_not_isKnown ⟨number⟩ unknown read, rfl⟩

theorem build_combine_eq_error_iff (operands : List Operand) (refusal : Refusal) :
    Construction.build masks (.combine operands) = .error refusal ↔
      operands = [] ∧ refusal = .input .noFlags := by
  rw [Construction.build, mapError_eq_error_iff]
  simp only [combine_eq_error_iff, List.map_eq_nil_iff]
  constructor
  · rintro ⟨_, ⟨none, rfl⟩, rfl⟩
    exact ⟨none, rfl⟩
  · rintro ⟨none, rfl⟩
    exact ⟨_, ⟨none, rfl⟩, rfl⟩

/-- Neither the order of operands counts nor how often one of them is listed. -/
theorem build_combine_congr (operands others : List Operand)
    (same : ∀ operand, operand ∈ operands ↔ operand ∈ others) :
    Construction.build masks (.combine operands) = Construction.build masks (.combine others) := by
  have joined : Mask.combine (operands.map (·.mask masks)) =
      Mask.combine (others.map (·.mask masks)) :=
    combine_congr _ _ fun mask => by simp only [List.mem_map, same]
  rw [Construction.build, Construction.build, joined]

end Steps

/-- Whatever a program did, its masks have no unknown bit, their flags make them up again, and they are
read back from their texts.  A mask is made exactly from known bits, from a text of them, from two
operands, and from at least one operand to combine.  The flags of the result are those of the number,
the union of those of the operands, or what both share.  Unknown bits are refused and exactly they are
reported, and no mask changes then.  Combining does not depend on the order of operands or on how often
they are listed.  One mask lies in another one exactly when its flags do, and exactly when joining them
adds nothing. -/
theorem lawful_heldAfter (steps : List Step) :
    let masks := heldAfter steps
    (∀ slot, (masks slot).IsLawful) ∧
    (∀ construction : Construction,
      ((∃ mask, construction.build masks = .ok mask) ↔ construction.IsAccepted) ∧
      ∀ mask, construction.build masks = .ok mask →
        mask.IsLawful ∧ ∀ flag, flag ∈ mask.flags ↔ construction.Grants masks flag) ∧
    (∀ (step : Step) refusal, step.construction.build masks = .error refusal →
      heldAfter (steps ++ [step]) = masks) ∧
    (∀ number : UInt32, ¬ IsKnown ⟨number⟩ →
      (∃ reported, Construction.build masks (.bits number) = .error (.input (.unknownBits reported)) ∧
        ∀ position, HasBit reported position ↔
          HasBit number position ∧ ¬ ∃ flag : Flag, HasBit flag.bit position) ∧
      ∀ document, Decoder.any.document document = .ok (.number (.integer number.toNat)) →
        Construction.build masks (.text document) = .error (.json (Json.here .unsuitable))) ∧
    (∀ operands,
      (∀ refusal, Construction.build masks (.combine operands) = .error refusal ↔
        operands = [] ∧ refusal = .input .noFlags) ∧
      ∀ others, (∀ operand, operand ∈ operands ↔ operand ∈ others) →
        Construction.build masks (.combine operands) = Construction.build masks (.combine others)) ∧
    ∀ left right : Operand,
      ((left.mask masks).isSubset (right.mask masks) = true ↔
        ∀ flag ∈ (left.mask masks).flags, flag ∈ (right.mask masks).flags) ∧
      ((left.mask masks).isSubset (right.mask masks) = true ↔
        (left.mask masks).union (right.mask masks) = right.mask masks) := by
  intro masks
  have allKnown : ∀ slot, (masks slot).IsKnown := isKnown_heldAfter steps
  refine ⟨fun slot => (allKnown slot).isLawful,
    fun construction => ⟨exists_build_iff construction, fun mask built =>
      ⟨(isKnown_build allKnown _ mask built).isLawful, mem_flags_build _ mask built⟩⟩,
    fun step refusal refused => ?unchanged,
    fun number unknown => ⟨build_bits_of_not_isKnown number unknown,
      build_text_of_not_isKnown number unknown⟩,
    fun operands => ⟨build_combine_eq_error_iff operands, build_combine_congr operands⟩,
    fun left right => ⟨isSubset_iff_flags _ _ (isKnown_operand allKnown left),
      isSubset_iff_union _ _⟩⟩
  case unchanged => rw [heldAfter_append, step.apply_of_error refusal refused]

/-- Masks from bits and from a text are joined, and then a number with an unknown bit is refused. -/
theorem lawful_heldAfter_refused :
    let steps : List Step :=
      [⟨0, .bits 3⟩, ⟨1, .text (textBytes "9")⟩, ⟨0, .join (.held 0) (.held 1)⟩]
    let refused : Step := ⟨1, .bits 17⟩
    heldAfter steps 0 = ⟨11⟩ ∧ heldAfter steps 1 = ⟨9⟩ ∧
      combine ([.access, .browse, .commit].map ofFlag) = .ok ⟨11⟩ ∧
      decoder.document (textBytes "11") = .ok ⟨11⟩ ∧
      refused.construction.build (heldAfter steps) = .error (.input (.unknownBits 16)) ∧
      heldAfter (steps ++ [refused]) = heldAfter steps := by
  intro steps refused
  obtain ⟨lawful, -, unchanged, -⟩ := lawful_heldAfter steps
  have joined : heldAfter steps 0 = ⟨11⟩ := by decide +kernel
  have fromText : heldAfter steps 1 = ⟨9⟩ := by decide +kernel
  have reported : refused.construction.build (heldAfter steps) =
    .error (.input (.unknownBits 16)) := rfl
  have again := lawful 0
  rw [joined] at again
  exact ⟨joined, fromText, again.rebuilt (by decide), again.reread, reported,
    unchanged refused _ reported⟩

end Mask

end ConfinedHttp
