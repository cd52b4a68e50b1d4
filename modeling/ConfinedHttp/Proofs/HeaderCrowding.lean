import ConfinedHttp.Proofs.HeaderCapacity

/-!
Names can crowd a table that is far from full, so headers overflow at numbers for which tables are made.
Here the names stand in a row, each where it belongs, and one more name that belongs at the start of the
row pushes on all behind it.
-/

namespace ConfinedHttp

namespace HeaderTable

section Row

variable {table : HeaderTable} {count : Nat}

/-- The first places of a calm table of the greatest size are taken by the hashes that belong there. -/
structure IsRow (table : HeaderTable) (count : Nat) : Prop where
  size : table.places = greatest
  used : table.used = count
  calm : table.danger = .calm
  slots : ∀ place < greatest, table.slots[place]? = some (if place < count then some place else none)

theorem placesFor_of_many (many : 12288 < count) (few : count ≤ 24576) :
    placesFor count = greatest := by
  have large : ¬ placesFor count ≤ 2 ^ 14 := by
    rw [placesFor, if_neg (by omega), powerFrom_le_iff]
    omega
  obtain none | ⟨power, small, isPower⟩ := isSize_placesFor ((placesFor_le_iff count).mpr few)
  · rw [none] at large
    omega
  · rw [isPower, Nat.pow_le_pow_iff_right (by decide)] at large
    obtain rfl : power = 15 := by omega
    exact isPower

theorem exists_isRow (many : 12288 < count) (few : count ≤ 24576) :
    ∃ table, make? count = some table ∧ table.IsRow 0 := by
  refine ⟨⟨.replicate greatest none, 0, .calm⟩, ?_, Array.size_replicate, rfl, rfl, ?_⟩
  · rw [make?, placesFor_of_many many few]
    exact if_pos (Nat.le_refl _)
  · intro place inside
    rw [Array.getElem?_replicate, if_pos inside, if_neg (Nat.not_lt_zero place)]

theorem IsRow.isRoomy (row : table.IsRow count) (room : count < 24576) : table.IsRoomy := by
  constructor
  · exact .inr ⟨15, Nat.le_refl _, row.size⟩
  · rw [row.calm]
    decide
  · rw [capacity, row.size, row.used]
    exact room

theorem IsRow.take? (row : table.IsRow count) (room : count < 24576) (hash : Nat) :
    table.take? hash false = some (table.hold hash) := by
  rw [HeaderTable.take?, reserve?_of_isRoomy (row.isRoomy room)]
  rfl

/-- A hash that belongs behind the row makes it longer. -/
theorem IsRow.hold (row : table.IsRow count) (room : count < 24576) :
    (table.hold count).IsRow (count + 1) := by
  have inside : count < greatest := Nat.lt_trans room (by decide)
  have free : table.slots[count]? = some none := by
    rw [row.slots count inside, if_neg (Nat.lt_irrefl _)]
  have probed : probe table.slots count count 0 (32767 + 1) =
      (table.slots.set! count (some count), false) := by
    rw [probe, free]
  have held : table.hold count = ⟨table.slots.set! count (some count), count + 1, .calm⟩ := by
    rw [HeaderTable.hold, row.calm, if_neg (by decide), row.size, Nat.mod_eq_of_lt inside, row.used]
    rw [show greatest = 32767 + 1 from rfl, probed]
    rfl
  rw [held]
  refine ⟨?_, rfl, rfl, ?_⟩
  · exact (Array.size_setIfInBounds ..).trans row.size
  · intro place within
    change (table.slots.set! count (some count))[place]? = _
    by_cases here : place = count
    · rw [here, Array.set!, Array.getElem?_setIfInBounds_self_of_lt (inside.trans_eq row.size.symm),
        if_pos (Nat.lt_succ_self count)]
    · have same : place < count + 1 ↔ place < count := by omega
      rw [Array.set!, Array.getElem?_setIfInBounds_ne (Ne.symm here), row.slots place within]
      simp only [same]

/-- Every hash in front of a free place is pushed on. -/
theorem le_push (slots : Array (Option Nat)) (hash place count turns : Nat) (enough : count ≤ turns)
    (within : place + count < slots.size)
    (taken : ∀ step < count, ∃ other, slots[place + step]? = some (some other)) :
    count ≤ (push slots hash place turns).2 := by
  induction count generalizing slots hash place turns with
  | zero => exact Nat.zero_le _
  | succ count inductionHypothesis =>
    obtain _ | turns := turns
    · omega
    · obtain ⟨other, here⟩ := taken 0 (Nat.succ_pos count)
      have next : behind slots place = place + 1 := Nat.mod_eq_of_lt (by omega)
      rw [Nat.add_zero] at here
      rw [push, here]
      simp only [next]
      apply Nat.succ_le_succ
      apply inductionHypothesis _ _ _ _ (by omega)
      · rw [Array.set!, Array.size_setIfInBounds]
        omega
      · intro step inside
        obtain ⟨another, there⟩ := taken (step + 1) (by omega)
        refine ⟨another, ?_⟩
        rw [Array.set!, Array.getElem?_setIfInBounds_ne (by omega), ← there, Nat.add_assoc,
          Nat.add_comm 1]

theorem distance_home (slots : Array (Option Nat)) {place : Nat} (inside : place < slots.size) :
    distance slots place place = 0 := by
  rw [distance, Nat.mod_eq_of_lt inside, Nat.add_sub_cancel_left, Nat.mod_self]

/-- A hash that belongs at the start of a long row crowds the table. -/
theorem IsRow.crowds (row : table.IsRow count) (long : 128 < count) (room : count < 24576) :
    (table.hold 0).danger = .crowded := by
  have size : table.slots.size = greatest := row.size
  have large : count < greatest := Nat.lt_trans room (by decide)
  have slots (place : Nat) (inside : place < count) : table.slots[place]? = some (some place) := by
    rw [row.slots place (Nat.lt_trans inside large), if_pos inside]
  have home (place : Nat) (inside : place < count) : distance table.slots place place = 0 :=
    distance_home _ (by rw [size]; exact Nat.lt_trans inside large)
  have pushed : 128 ≤ (push table.slots 0 1 greatest).2 := by
    apply le_push
    · decide
    · rw [size]
      decide
    · intro step inside
      exact ⟨1 + step, slots (1 + step) (by omega)⟩
  have next : behind table.slots 0 = 1 := by
    rw [behind, size]
    rfl
  have probed : (probe table.slots 0 0 0 (32766 + 1 + 1)).2 = true := by
    rw [probe, slots 0 (by omega)]
    simp only [home 0 (by omega), Nat.lt_irrefl, if_false, next]
    rw [probe, slots 1 (by omega)]
    simp only [home 1 (by omega), size]
    simp [mostPushed, pushed]
  rw [HeaderTable.hold, row.calm, if_neg (by decide), row.size, Nat.zero_mod]
  exact if_pos probed

end Row

section Names

/-- Names of different lengths. -/
def rowName (index : Nat) : String := String.ofList (List.replicate (index + 1) 'a')

/-- Each of these names belongs right behind the one before. -/
def rowHash (name : String) : Nat := name.length - 1

theorem rowHash_rowName (index : Nat) : rowHash (rowName index) = index := by
  rw [rowHash, rowName, String.length_ofList, List.length_replicate, Nat.add_sub_cancel]

theorem toList_rowName (index : Nat) : (rowName index).toList = List.replicate (index + 1) 'a' :=
  String.toList_ofList

theorem lower_rowName (index : Nat) : Ascii.lower (rowName index) = rowName index := by
  rw [Ascii.lower, toList_rowName, List.map_replicate]
  rfl

/-- The names are taken in a row. -/
theorem IsRow.takeAll? {table : HeaderTable} (row : table.IsRow 0) (count : Nat)
    (room : count ≤ 24576) :
    ∃ last, table.takeAll? rowHash [] ((List.range count).map rowName) = some last ∧
      last.IsRow count := by
  induction count with
  | zero => exact ⟨table, rfl, row⟩
  | succ count inductionHypothesis =>
    obtain ⟨last, taken, isRow⟩ := inductionHypothesis (by omega)
    have new : ((List.range count).map rowName).contains (rowName count) = false := by
      rw [Bool.eq_false_iff, Ne, List.contains_iff_mem, List.mem_map]
      rintro ⟨index, inside, same⟩
      have equal := congrArg rowHash same
      rw [rowHash_rowName, rowHash_rowName] at equal
      exact absurd (equal ▸ List.mem_range.mp inside) (Nat.lt_irrefl _)
    refine ⟨last.hold count, ?_, isRow.hold (by omega)⟩
    rw [List.range_succ, List.map_append, List.map_singleton, takeAll?_concat, taken,
      Option.bind_some, List.nil_append, new, rowHash_rowName]
    exact isRow.take? (by omega) count

end Names

end HeaderTable

namespace Multidict

open HeaderMap HeaderTable

/-- A row of names, and a name that belongs at its start. -/
def rowHeaders (length : Nat) : List (String × String) :=
  (List.range length).map (fun index => (rowName index, "")) ++ [("b", "")]

/-- This list has a given number of headers, of which all behind the row are the same. -/
def crowding (count : Nat) : Multidict :=
  ⟨rowHeaders 6553 ++ ("b", "") :: List.replicate (count - 6555) ("b", "")⟩

theorem isHeader_rowName {index : Nat} (short : index < 65535) : IsHeader (rowName index, "") := by
  refine ⟨⟨?_, ?_, ?_⟩, by simp [IsValue]⟩
  · intro empty
    change rowName index = "" at empty
    have letters := toList_rowName index
    rw [empty] at letters
    cases letters
  · intro character inside
    rw [toList_rowName] at inside
    rw [List.eq_of_mem_replicate inside]
    exact .inl (by decide)
  · rw [rowName, String.length_ofList, List.length_replicate]
    exact short

theorem isHeader_b : IsHeader ("b", "") :=
  ⟨(isName_iff "b").mpr (by decide), by simp [IsValue]⟩

theorem isHeader_rowHeaders {length : Nat} (short : length ≤ 65535) :
    ∀ header ∈ rowHeaders length, IsHeader header := by
  rw [rowHeaders, List.forall_mem_append, List.forall_mem_singleton]
  refine ⟨fun header inside => ?_, isHeader_b⟩
  obtain ⟨index, within, rfl⟩ := List.mem_map.mp inside
  exact isHeader_rowName (Nat.lt_of_lt_of_le (List.mem_range.mp within) short)

theorem length_rowHeaders (length : Nat) : (rowHeaders length).length = length + 1 := by
  rw [rowHeaders, List.length_append, List.length_map, List.length_range, List.length_singleton]

theorem size_crowding {count : Nat} (many : 6554 < count) : (crowding count).size = count := by
  rw [crowding, Multidict.size, List.length_append, length_rowHeaders, List.length_cons,
    List.length_replicate]
  omega

/-- The row is taken, and the name at its start crowds the table. -/
theorem takeAll?_rowHeaders {table : HeaderTable} (row : table.IsRow 0) {length : Nat}
    (long : 128 < length) (room : length < 24576) :
    ∃ last, table.takeAll? rowHash [] ((rowHeaders length).map fun header =>
        Ascii.lower header.1) = some last ∧
      last.danger = .crowded ∧ last.places = greatest ∧ last.used = length + 1 := by
  obtain ⟨last, taken, isRow⟩ := row.takeAll? length (Nat.le_of_lt room)
  have names : (rowHeaders length).map (fun header => Ascii.lower header.1) =
      (List.range length).map rowName ++ ["b"] := by
    simp only [rowHeaders, List.map_append, List.map_map, Function.comp_def, lower_rowName]
    rfl
  have new : ((List.range length).map rowName).contains "b" = false := by
    rw [Bool.eq_false_iff, Ne, List.contains_iff_mem, List.mem_map]
    rintro ⟨index, -, same⟩
    have letters := toList_rowName index
    rw [same, List.replicate_succ] at letters
    exact absurd (List.cons.inj letters).1 (by decide)
  refine ⟨last.hold 0, ?_, isRow.crowds long room, ?_, ?_⟩
  · rw [names, takeAll?_concat, taken, Option.bind_some, List.nil_append, new]
    exact isRow.take? room 0
  · rw [places_hold, isRow.size]
  · rw [used_hold, isRow.used]

/-- Every number of headers that a table of the greatest size is made for can overflow it. -/
theorem exists_overflows (count : Nat) (many : 12288 < count) (few : count ≤ 24576) :
    ∃ hash dict, Multidict.size dict = count ∧ dict.Overflows hash := by
  obtain ⟨table, made, row⟩ := exists_isRow many few
  obtain ⟨last, taken, crowded, full, used⟩ :=
    @takeAll?_rowHeaders table row 6553 (by decide) (by decide)
  have size : (crowding count).size = count := size_crowding (by omega)
  refine ⟨rowHash, crowding count, size, ?_⟩
  rw [← size] at made
  refine .crowding table last (rowHeaders 6553) _ ("b", "") made rfl
    (isHeader_rowHeaders (by decide)) isHeader_b taken crowded full ?_
  rw [used]
  decide

end Multidict

end ConfinedHttp
