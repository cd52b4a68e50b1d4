import ConfinedHttp.Proofs.FormReading
import ConfinedHttp.Proofs.HeaderRoom
import ConfinedHttp.Proofs.Signing

namespace ConfinedHttp

namespace HeaderMap

section Grouping

variable {α β : Type}

/-- Entries grouped by name.  The groups stand in the order in which their names first appear, and
the entries of a group in the order in which they stood before. -/
def grouped (entries : List (String × α)) : List (String × α) :=
  (entries.map (·.1)).eraseDups.flatMap fun name => entries.filter (·.1 = name)

/-- The entries with other names. -/
def others (name : String) (entries : List (String × α)) : List (String × α) :=
  entries.filter (·.1 ≠ name)

@[simp] theorem grouped_nil : grouped ([] : List (String × α)) = [] := rfl

theorem filter_others (name other : String) (different : other ≠ name)
    (entries : List (String × α)) :
    (others name entries).filter (·.1 = other) = entries.filter (·.1 = other) := by
  rw [others, List.filter_filter]
  apply List.filter_congr
  intro entry _
  by_cases isOther : entry.1 = other
  · simp [isOther, different]
  · simp [isOther]

theorem names_others (name : String) (entries : List (String × α)) :
    (entries.map (·.1)).filter (fun other => !other == name) = (others name entries).map (·.1) := by
  rw [List.filter_map, others]
  congr 1
  apply List.filter_congr
  intro other _
  simp [Bool.beq_eq_decide_eq]

/-- The group of the first name comes first. -/
theorem grouped_cons (entry : String × α) (rest : List (String × α)) :
    grouped (entry :: rest) =
      entry :: rest.filter (·.1 = entry.1) ++ grouped (others entry.1 rest) := by
  rw [grouped, List.map_cons, List.eraseDups_cons, names_others, List.flatMap_cons,
    List.filter_cons_of_pos (by simp)]
  congr 1
  apply List.flatMap_congr
  intro name inside
  have different : name ≠ entry.1 := by
    obtain ⟨other, isOther, rfl⟩ := List.mem_map.mp (List.mem_eraseDups.mp inside)
    simpa using (List.mem_filter.mp isOther).2
  rw [List.filter_cons_of_neg (by simpa using different.symm), filter_others _ _ different]

/-- Groups can be taken off one after another. -/
@[elab_as_elim]
theorem groupInduction {motive : List (String × α) → Prop} (nil : motive [])
    (cons : ∀ entry rest, motive (others entry.1 rest) → motive (entry :: rest))
    (entries : List (String × α)) : motive entries := by
  induction size : entries.length using Nat.strong_induction_on generalizing entries with
  | h size smaller =>
    cases entries with
    | nil => exact nil
    | cons entry rest =>
      have shorter : (others entry.1 rest).length ≤ rest.length := List.length_filter_le _ _
      rw [List.length_cons] at size
      exact cons entry rest (smaller _ (by omega) _ rfl)

/-- Grouping keeps the entries of each name as they are. -/
theorem filter_grouped (name : String) (entries : List (String × α)) :
    (grouped entries).filter (·.1 = name) = entries.filter (·.1 = name) := by
  induction entries using groupInduction with
  | nil => rfl
  | cons entry rest inductionHypothesis =>
    rw [grouped_cons, List.filter_append, inductionHypothesis, List.filter_cons,
      List.filter_cons, List.filter_filter]
    by_cases isName : entry.1 = name
    · subst isName
      have none : (others entry.1 rest).filter (·.1 = entry.1) = [] := by
        simp [others, List.filter_filter]
      simp [none]
    · have empty : (rest.filter fun other =>
          decide (other.1 = name) && decide (other.1 = entry.1)) = [] := by
        simp only [List.filter_eq_nil_iff, Bool.and_eq_true, decide_eq_true_eq, not_and]
        rintro other - rfl
        exact Ne.symm isName
      simp [isName, empty, filter_others _ _ (Ne.symm isName)]

/-- Grouping does not look at what is held under the names. -/
theorem grouped_map (change : α → β) (entries : List (String × α)) :
    grouped (entries.map fun entry => (entry.1, change entry.2)) =
      (grouped entries).map fun entry => (entry.1, change entry.2) := by
  simp only [grouped, List.map_map, List.map_flatMap, List.filter_map, Function.comp_def]

/-- Grouping loses no entry and adds none. -/
theorem grouped_perm (entries : List (String × α)) : (grouped entries).Perm entries := by
  induction entries using groupInduction with
  | nil => exact List.Perm.refl _
  | cons entry rest inductionHypothesis =>
    have parted : (rest.filter (·.1 = entry.1) ++ others entry.1 rest).Perm rest := by
      simpa [others] using List.filter_append_perm (fun other => decide (other.1 = entry.1)) rest
    rw [grouped_cons, List.cons_append]
    exact ((inductionHypothesis.append_left _).trans parted).cons entry

theorem name_of_mem_group (entry : String × α) (rest : List (String × α)) :
    ∀ other ∈ entry :: rest.filter (·.1 = entry.1), other.1 = entry.1 := by
  simp

theorem name_of_mem_grouped_others (name : String) (entries : List (String × α)) :
    ∀ other ∈ grouped (others name entries), other.1 ≠ name := by
  intro other inside
  rw [(grouped_perm _).mem_iff, others, List.mem_filter] at inside
  simpa using inside.2

/-- A group in front of entries with other names stays in front of their groups. -/
theorem grouped_append_of_group (name : String) (group back : List (String × α))
    (same : ∀ entry ∈ group, entry.1 = name) (apart : ∀ entry ∈ back, entry.1 ≠ name) :
    grouped (group ++ back) = group ++ grouped back := by
  cases group with
  | nil => rfl
  | cons entry rest =>
    obtain ⟨rfl, sameRest⟩ := List.forall_mem_cons.mp same
    have first : (rest ++ back).filter (·.1 = entry.1) = rest := by
      rw [List.filter_append, List.filter_eq_self.mpr fun other inside =>
        decide_eq_true (sameRest other inside), List.filter_eq_nil_iff.mpr fun other inside =>
        by simpa using apart other inside, List.append_nil]
    have behind : others entry.1 (rest ++ back) = back := by
      rw [others, List.filter_append, List.filter_eq_nil_iff.mpr fun other inside =>
        by simpa using sameRest other inside, List.filter_eq_self.mpr fun other inside =>
        decide_eq_true (apart other inside), List.nil_append]
    rw [List.cons_append, grouped_cons, first, behind]

/-- Entries that are grouped stay as they are. -/
theorem grouped_grouped (entries : List (String × α)) :
    grouped (grouped entries) = grouped entries := by
  induction entries using groupInduction with
  | nil => rfl
  | cons entry rest inductionHypothesis =>
    rw [grouped_cons, grouped_append_of_group entry.1 _ _ (name_of_mem_group entry rest)
      (name_of_mem_grouped_others entry.1 rest), inductionHypothesis]

/-- Grouping keeps the order in which names first appear. -/
theorem eraseDups_names_grouped (entries : List (String × α)) :
    ((grouped entries).map (·.1)).eraseDups = (entries.map (·.1)).eraseDups := by
  induction entries using groupInduction with
  | nil => rfl
  | cons entry rest inductionHypothesis =>
    have own : others entry.1 (rest.filter (·.1 = entry.1)) = [] := by
      simp [others, List.filter_filter]
    have apart : others entry.1 (grouped (others entry.1 rest)) = grouped (others entry.1 rest) :=
      List.filter_eq_self.mpr fun other inside =>
        decide_eq_true (name_of_mem_grouped_others entry.1 rest other inside)
    have left : others entry.1 (rest.filter (·.1 = entry.1) ++ grouped (others entry.1 rest)) =
        grouped (others entry.1 rest) := by
      rw [others, List.filter_append, ← others, ← others, own, apart, List.nil_append]
    rw [grouped_cons, List.cons_append, List.map_cons, List.eraseDups_cons, names_others, left,
      inductionHypothesis, List.map_cons, List.eraseDups_cons, names_others]

/-- An entry with a new name is a group of its own behind the others. -/
theorem grouped_concat_of_new (entries : List (String × α)) (entry : String × α)
    (isNew : entry.1 ∉ entries.map (·.1)) :
    grouped (entries ++ [entry]) = grouped entries ++ [entry] := by
  induction entries using groupInduction with
  | nil => simp [grouped_cons, others]
  | cons first rest inductionHypothesis =>
    rw [List.map_cons, List.mem_cons, not_or] at isNew
    obtain ⟨different, later⟩ := isNew
    have group : (rest ++ [entry]).filter (·.1 = first.1) = rest.filter (·.1 = first.1) := by
      simp [different]
    have behind : others first.1 (rest ++ [entry]) = others first.1 rest ++ [entry] := by
      simp [others, different]
    have stillNew : entry.1 ∉ (others first.1 rest).map (·.1) := fun inside =>
      later (List.map_subset _ (List.filter_subset_self rest) inside)
    rw [List.cons_append, grouped_cons, grouped_cons, group, behind,
      inductionHypothesis stillNew, List.append_assoc]

/-- A table that takes the names of entries takes them as well when the entries are grouped. -/
theorem isSome_takeAll?_grouped (hash : String → Nat) {table : HeaderTable} (sound : table.IsSound)
    (entries : List (String × α))
    (taken : (table.takeAll? hash [] (entries.map (·.1))).isSome) :
    (table.takeAll? hash [] ((grouped entries).map (·.1))).isSome := by
  obtain rfl | ⟨front, last, rfl⟩ := entries.eq_nil_or_concat'
  · exact taken
  · rw [List.map_append, List.map_singleton] at taken
    by_cases known : last.1 ∈ front.map (·.1)
    · -- The last name is needed before, so the groups need no more room than the entries in front.
      obtain none | ⟨others, other, whole⟩ := (grouped (front ++ [last])).eq_nil_or_concat'
      · rw [none]
        rfl
      · have same := eraseDups_names_grouped (front ++ [last])
        rw [whole, List.map_append, List.map_append, List.eraseDups_append, List.map_singleton,
          List.map_singleton, HeaderTable.eraseDups_concat, if_pos known] at same
        rw [whole, List.map_append]
        exact HeaderTable.isSome_takeAll?_of_prefix hash sound ⟨_, same⟩ _ _ taken
    · rw [grouped_concat_of_new front last known, List.map_append]
      refine HeaderTable.isSome_takeAll?_of_prefix hash sound ?_ _ _ taken
      rw [eraseDups_names_grouped]

end Grouping

/-- An entry goes past the entries with other names. -/
theorem insert_append (name : String) (value : Bytes) (front back : List (String × Bytes))
    (apart : ∀ entry ∈ front, entry.1 ≠ name) :
    insert name value (front ++ back) = front ++ insert name value back := by
  induction front with
  | nil => rfl
  | cons entry rest inductionHypothesis =>
    obtain ⟨different, later⟩ := List.forall_mem_cons.mp apart
    rw [List.cons_append, insert, if_neg different, inductionHypothesis later, List.cons_append]

/-- Inserting an entry into groups is grouping with the entry at the end. -/
theorem insert_grouped (name : String) (value : Bytes) (entries : List (String × Bytes)) :
    insert name value (grouped entries) = grouped (entries ++ [(name, value)]) := by
  induction entries using groupInduction with
  | nil => simp [insert, grouped_cons, others]
  | cons entry rest inductionHypothesis =>
    have apart := name_of_mem_grouped_others entry.1 rest
    rw [List.cons_append, grouped_cons, grouped_cons]
    -- The value goes to the end of the first group, or that group is passed over.
    by_cases isName : entry.1 = name
    · obtain ⟨taken, left⟩ := takeWhile_dropWhile_append (·.1 = entry.1)
        (rest.filter (·.1 = entry.1)) (grouped (others entry.1 rest))
        (fun other inside => (List.mem_filter.mp inside).2)
        fun other isFirst => decide_eq_false (apart other (List.mem_of_mem_head? isFirst))
      rw [List.cons_append, insert, if_pos isName, ← isName, taken, left]
      simp [others]
    · have front : ∀ other ∈ entry :: rest.filter (·.1 = entry.1), other.1 ≠ name :=
        fun other inside => by rwa [name_of_mem_group entry rest other inside]
      rw [insert_append _ _ _ _ front, inductionHypothesis]
      simp [others, Ne.symm isName]

section Validity

/-- A name is a token of letters, digits and some marks, and not too long. -/
structure IsName (name : String) : Prop where
  some : name ≠ ""
  token : ∀ character ∈ name.toList,
    character.isAlphanum = true ∨ character ∈ "!#$%&'*+-.^_`|~".toList
  short : name.length ≤ 65535

/-- A value holds no control character other than a tab. -/
def IsValue (value : String) : Prop :=
  ∀ character ∈ value.toList, character = '\t' ∨ 0x20 ≤ character.toNat ∧ character.toNat ≠ 0x7F

/-- A name and a value that can go over the wire. -/
def IsHeader (pair : String × String) : Prop := IsName pair.1 ∧ IsValue pair.2

theorem isName_iff (name : String) :
    IsName name ↔ (!name.isEmpty && name.toList.all isNameCharacter &&
      decide (name.length ≤ greatestName)) = true := by
  simp only [Bool.and_eq_true, Bool.not_eq_true', decide_eq_true_eq, List.all_eq_true,
    isNameCharacter, Bool.or_eq_true, List.contains_iff_mem, and_assoc]
  constructor
  · rintro ⟨some, token, short⟩
    exact ⟨by simpa using some, token, short⟩
  · rintro ⟨some, token, short⟩
    exact ⟨by simpa using some, token, short⟩

theorem isValueByte_iff (byte : UInt8) :
    isValueByte byte = true ↔ byte.toNat = 9 ∨ 0x20 ≤ byte.toNat ∧ byte.toNat ≠ 0x7F := by
  induction byte using forall_byte_of_forall_code with
  | each code small =>
    revert code
    decide +kernel

/-- A character may stand in a value exactly when all its bytes may. -/
theorem all_isValueByte_utf8EncodeChar (character : Char) :
    (∀ byte ∈ String.utf8EncodeChar character, isValueByte byte = true) ↔
      character = '\t' ∨ 0x20 ≤ character.toNat ∧ character.toNat ≠ 0x7F := by
  by_cases ascii : character.toNat < 128
  · rw [Utf8.utf8EncodeChar_of_ascii character ascii]
    simp only [List.mem_singleton, forall_eq]
    refine Ascii.forall_of_forall_code ?_ character ascii
    decide +kernel
  · refine iff_of_true (fun byte inside => ?_) (.inr (by omega))
    have large : ¬ byte.toNat < 128 := fun small =>
      ascii (Utf8.toNat_of_mem_utf8EncodeChar character byte inside small ▸ small)
    exact (isValueByte_iff byte).mpr (.inr (by omega))

theorem all_isValueByte_iff (value : String) :
    (textBytes value).all isValueByte = true ↔ IsValue value := by
  simp only [textBytes, Utf8.encode, List.all_flatMap, List.all_eq_true,
    all_isValueByte_utf8EncodeChar, IsValue]

variable {pair : String × String} (headers : HeaderMap)

theorem append?_of_isHeader (valid : IsHeader pair) :
    headers.append? pair.1 (textBytes pair.2) =
      some ⟨insert (Ascii.lower pair.1) (textBytes pair.2) headers.entries⟩ := by
  have wire : wireName? pair.1 = some (Ascii.lower pair.1) := by
    rw [wireName?, if_pos ((isName_iff pair.1).mp valid.1)]
  rw [append?, wire, Option.bind_eq_bind, Option.bind_some,
    if_pos ((all_isValueByte_iff pair.2).mpr valid.2)]

theorem append?_of_not_isHeader (invalid : ¬ IsHeader pair) :
    headers.append? pair.1 (textBytes pair.2) = none := by
  rw [append?, wireName?]
  by_cases isName : IsName pair.1
  · have notValue : ¬ IsValue pair.2 := fun isValue => invalid ⟨isName, isValue⟩
    rw [if_pos ((isName_iff pair.1).mp isName), Option.bind_eq_bind, Option.bind_some,
      if_neg ((all_isValueByte_iff pair.2).not.mpr notValue)]
  · rw [if_neg ((isName_iff pair.1).not.mp isName), Option.bind_eq_bind, Option.bind_none]

/-- Valid headers are grouped with those that are there, when the table takes all their names. -/
theorem appendAll_append (hash : String → Nat) (table : HeaderTable)
    (before after : List (String × String)) (entries : List (String × Bytes))
    (valid : ∀ pair ∈ before, IsHeader pair) :
    appendAll hash table ⟨grouped entries⟩ (before ++ after) =
      (table.takeAll? hash (entries.map (·.1)) (before.map fun pair => Ascii.lower pair.1)).elim
        (.error .tooMany) fun next =>
          appendAll hash next ⟨grouped (entries ++ before.map entryOf)⟩ after := by
  induction before generalizing table entries with
  | nil => rw [List.nil_append, List.map_nil, List.map_nil, List.append_nil]; rfl
  | cons pair rest inductionHypothesis =>
    obtain ⟨isHeader, later⟩ := List.forall_mem_cons.mp valid
    have known : (grouped entries).any (·.1 = Ascii.lower pair.1) =
        (entries.map (·.1)).contains (Ascii.lower pair.1) := by
      rw [(grouped_perm entries).any_eq, Bool.eq_iff_iff, List.any_eq_true, List.contains_iff_mem,
        List.mem_map]
      simp only [decide_eq_true_eq]
    rw [List.cons_append, appendAll, append?_of_isHeader _ isHeader, List.map_cons,
      HeaderTable.takeAll?]
    simp only [known, insert_grouped]
    cases table.take? (hash (Ascii.lower pair.1))
        ((entries.map (·.1)).contains (Ascii.lower pair.1)) with
    | none => rfl
    | some next =>
      have run := inductionHypothesis next (entries ++ [entryOf pair]) later
      rw [List.map_append, List.append_assoc] at run
      exact run

end Validity

section SmallLetters

theorem lower_lower (name : String) : Ascii.lower (Ascii.lower name) = Ascii.lower name := by
  simp [Ascii.lower, Function.comp_def]

/-- A name stays valid in small letters. -/
theorem IsName.lower {name : String} (valid : IsName name) : IsName (Ascii.lower name) := by
  have each (character : Char) (token : character.isAlphanum = true ∨
      character ∈ "!#$%&'*+-.^_`|~".toList) :
      character.toLower.isAlphanum = true ∨ character.toLower ∈ "!#$%&'*+-.^_`|~".toList := by
    have ascii : character.toNat < 128 := by
      obtain permitted | isMark := token
      · exact Ascii.toNat_lt_of_isAlphanum character permitted
      · have marks : ∀ mark ∈ "!#$%&'*+-.^_`|~".toList, mark.toNat < 128 :=
          forall_mem_of_all _ (by decide)
        exact marks character isMark
    revert token
    refine Ascii.forall_of_forall_code ?_ character ascii
    decide +kernel
  constructor
  · simpa [Ascii.lower] using valid.some
  · intro character inside
    rw [Ascii.lower, String.toList_ofList] at inside
    obtain ⟨source, within, rfl⟩ := List.mem_map.mp inside
    exact each source (valid.token source within)
  · rw [Ascii.lower, String.length_ofList, List.length_map, String.length_toList]
    exact valid.short

end SmallLetters

end HeaderMap

/-- A list with an offender has a first one. -/
theorem exists_first_not {α : Type} {holds : α → Prop} (items : List α)
    (offends : ¬ ∀ item ∈ items, holds item) :
    ∃ before item after, items = before ++ item :: after ∧ (∀ earlier ∈ before, holds earlier) ∧
      ¬ holds item := by
  induction items with
  | nil => simp at offends
  | cons first rest inductionHypothesis =>
    by_cases here : holds first
    · obtain ⟨before, item, after, rfl, earlier, isOffender⟩ :=
        inductionHypothesis fun each => offends (List.forall_mem_cons.mpr ⟨here, each⟩)
      exact ⟨first :: before, item, after, rfl, List.forall_mem_cons.mpr ⟨here, earlier⟩,
        isOffender⟩
    · exact ⟨[], first, rest, rfl, by simp, here⟩

namespace Multidict

open HeaderMap

/-- The names of the headers in their form on the wire. -/
def wireNames (dict : Multidict) : List String := dict.pairs.map fun pair => Ascii.lower pair.1

/-- Headers fit when a table can be made for their number and takes all their names. -/
def Fits (hash : String → Nat) (dict : Multidict) : Prop :=
  ∃ table, HeaderTable.make? dict.size = some table ∧
    (table.takeAll? hash [] dict.wireNames).isSome

section Capacity

variable (hash : String → Nat) (dict : Multidict)

/-- Headers are too many for every table when there are more than 24576 of them. -/
theorem toHeaderMap_of_many (many : 24576 < dict.size) :
    dict.toHeaderMap hash = .error .tooMany := by
  rw [toHeaderMap, (HeaderTable.make?_eq_none_iff dict.size).mpr many]

/-- Few headers fit, whatever their names are. -/
theorem fits_of_few (few : dict.size ≤ 6554) : dict.Fits hash := by
  have notMany : HeaderTable.make? dict.size ≠ none := by
    rw [Ne, HeaderTable.make?_eq_none_iff]
    omega
  obtain ⟨table, made⟩ := Option.ne_none_iff_exists'.mp notMany
  have names : dict.wireNames.length = dict.size := List.length_map ..
  rw [← names] at made few
  exact ⟨table, names ▸ made, HeaderTable.isSome_takeAll?_of_few hash few made⟩

variable {dict} {table : HeaderTable}

/-- What a table has been made for is decided by the headers in front that are valid, and then by the
rest. -/
theorem toHeaderMap_of_made (made : HeaderTable.make? dict.size = some table)
    (before after : List (String × String)) (whole : dict.pairs = before ++ after)
    (valid : ∀ earlier ∈ before, IsHeader earlier) :
    dict.toHeaderMap hash =
      (table.takeAll? hash [] (before.map fun pair => Ascii.lower pair.1)).elim (.error .tooMany)
        fun next => appendAll hash next ⟨grouped (before.map entryOf)⟩ after := by
  have all := appendAll_append hash table before after [] valid
  rw [toHeaderMap, made, whole]
  exact all

/-- Whether there is room is decided by the headers in front of the first one that is not valid.  With
room for them, that one is reported, or else all headers are grouped. -/
theorem exists_front (made : HeaderTable.make? dict.size = some table) :
    ∃ front rest, dict.pairs = front ++ rest ∧ (∀ header ∈ front, IsHeader header) ∧
      (∀ header ∈ rest.head?, ¬ IsHeader header) ∧
      dict.toHeaderMap hash =
        (table.takeAll? hash [] (front.map fun pair => Ascii.lower pair.1)).elim (.error .tooMany)
          fun _ => rest.head?.elim (.ok ⟨grouped (front.map entryOf)⟩)
            fun header => .error (.invalid header.1) := by
  by_cases valid : ∀ header ∈ dict.pairs, IsHeader header
  · have whole := (List.append_nil dict.pairs).symm
    exact ⟨dict.pairs, [], whole, valid, by simp, toHeaderMap_of_made hash made _ _ whole valid⟩
  · obtain ⟨before, header, after, whole, earlier, invalid⟩ := exists_first_not dict.pairs valid
    refine ⟨before, header :: after, whole, earlier, by simpa using invalid, ?_⟩
    rw [toHeaderMap_of_made hash made before (header :: after) whole earlier]
    congr 1
    funext next
    rw [appendAll, append?_of_not_isHeader _ invalid]
    rfl

/-- The first header that is not valid is reported unless the headers run out of room. -/
theorem toHeaderMap_of_room (before after : List (String × String)) (pair : String × String)
    (whole : dict.pairs = before ++ pair :: after) (valid : ∀ earlier ∈ before, IsHeader earlier)
    (invalid : ¬ IsHeader pair) (room : dict.toHeaderMap hash ≠ .error .tooMany) :
    dict.toHeaderMap hash = .error (.invalid pair.1) := by
  cases made : HeaderTable.make? dict.size with
  | none =>
    apply absurd _ room
    rw [toHeaderMap, made]
  | some table =>
    rw [toHeaderMap_of_made hash made before (pair :: after) whole valid] at room ⊢
    cases run : table.takeAll? hash [] (before.map fun pair => Ascii.lower pair.1) with
    | none =>
      rw [run] at room
      exact absurd rfl room
    | some next => rw [Option.elim_some, appendAll, append?_of_not_isHeader _ invalid]

/-- A header that is reported is the first one that is not valid. -/
theorem exists_first_invalid {offender : String}
    (reported : dict.toHeaderMap hash = .error (.invalid offender)) :
    ∃ before header after, dict.pairs = before ++ header :: after ∧
      (∀ earlier ∈ before, IsHeader earlier) ∧ ¬ IsHeader header ∧ header.1 = offender := by
  cases made : HeaderTable.make? dict.size with
  | none =>
    rw [toHeaderMap, made] at reported
    cases reported
  | some table =>
    obtain ⟨front, rest, whole, earlier, invalid, outcome⟩ := exists_front hash made
    rw [outcome] at reported
    cases run : table.takeAll? hash [] (front.map fun pair => Ascii.lower pair.1) with
    | none =>
      rw [run] at reported
      cases reported
    | some next =>
      rw [run] at reported
      cases rest with
      | nil => cases reported
      | cons header after =>
        have same := HeaderFailure.invalid.inj (Except.error.inj reported)
        exact ⟨front, header, after, whole, earlier, invalid header rfl, same⟩

variable (fits : dict.Fits hash)

include fits

/-- Headers that are all valid are grouped. -/
theorem toHeaderMap_of_isHeader (valid : ∀ pair ∈ dict.pairs, IsHeader pair) :
    dict.toHeaderMap hash = .ok ⟨grouped (dict.pairs.map entryOf)⟩ := by
  obtain ⟨table, made, taken⟩ := fits
  obtain ⟨last, run⟩ := Option.isSome_iff_exists.mp taken
  rw [toHeaderMap_of_made hash made dict.pairs [] (List.append_nil _).symm valid, ← wireNames, run]
  rfl

/-- Headers that fit never run out of room. -/
theorem toHeaderMap_ne_tooMany : dict.toHeaderMap hash ≠ .error .tooMany := by
  intro broken
  obtain ⟨table, made, taken⟩ := fits
  obtain ⟨front, rest, whole, -, -, outcome⟩ := exists_front hash made
  rw [wireNames, whole, List.map_append, HeaderTable.takeAll?_append] at taken
  obtain ⟨next, run⟩ := Option.isSome_iff_exists.mp (Option.isSome_of_isSome_bind taken)
  rw [outcome, run] at broken
  cases rest <;> cases broken

end Capacity

variable (dict : Multidict)

/-- The pairs with their names in small letters. -/
def lowered : List (String × String) := dict.pairs.map fun pair => (Ascii.lower pair.1, pair.2)

theorem ofHeaderMap_grouped :
    ofHeaderMap ⟨grouped (dict.pairs.map entryOf)⟩ = ⟨grouped dict.lowered⟩ := by
  rw [ofHeaderMap, ← grouped_map, List.map_map, lowered]
  simp only [Function.comp_def, entryOf, lossyText_textBytes]

theorem lower_of_mem_grouped_lowered :
    ∀ pair ∈ grouped dict.lowered, Ascii.lower pair.1 = pair.1 := by
  intro pair inside
  rw [(grouped_perm _).mem_iff] at inside
  obtain ⟨source, -, rfl⟩ := List.mem_map.mp inside
  exact lower_lower source.1

/-- Grouping keeps the values of a name in any case, and their order. -/
theorem named_grouped_lowered (name : String) :
    ((⟨grouped dict.lowered⟩ : Multidict).named name).map (·.2) = (dict.named name).map (·.2) := by
  have sameNames : ∀ pair ∈ grouped dict.lowered,
      Ascii.sameName pair.1 name = decide (pair.1 = Ascii.lower name) := by
    intro pair inside
    rw [Ascii.sameName, dict.lower_of_mem_grouped_lowered pair inside]
    rfl
  rw [named, List.filter_congr sameNames, filter_grouped, lowered, List.filter_map, List.map_map]
  rfl

/-- Grouped pairs with names in small letters go over the wire as they are. -/
theorem map_entryOf_grouped_lowered :
    (grouped dict.lowered).map entryOf = grouped (dict.pairs.map entryOf) := by
  have same : ∀ pair ∈ grouped dict.lowered, entryOf pair = (pair.1, textBytes pair.2) :=
    fun pair inside => by rw [entryOf, dict.lower_of_mem_grouped_lowered pair inside]
  rw [List.map_congr_left same, ← grouped_map, lowered, List.map_map]
  rfl

/-- The headers that were read fit when the headers before did. -/
theorem fits_ofHeaderMap_grouped (hash : String → Nat) (fits : dict.Fits hash) :
    (⟨grouped dict.lowered⟩ : Multidict).Fits hash := by
  obtain ⟨table, made, taken⟩ := fits
  have size : (⟨grouped dict.lowered⟩ : Multidict).size = dict.size := by
    rw [Multidict.size, (grouped_perm _).length_eq, lowered, List.length_map, Multidict.size]
  have names : dict.wireNames = dict.lowered.map (·.1) := by
    rw [lowered, List.map_map]
    rfl
  have again : (⟨grouped dict.lowered⟩ : Multidict).wireNames =
      (grouped dict.lowered).map (·.1) :=
    List.map_congr_left dict.lower_of_mem_grouped_lowered
  refine ⟨table, size ▸ made, ?_⟩
  rw [again]
  rw [names] at taken
  exact isSome_takeAll?_grouped hash (HeaderTable.isSound_of_make? made).1 dict.lowered taken

/-- Headers that fit go over the wire exactly when each of them is valid, and otherwise the first one
that is not valid is reported.  What is read from the wire again is the list with its names in small
letters and grouped by name.  So each name, in any case, keeps its values in their order, no header is
lost, and the headers that were read go over the wire as the same ones did. -/
theorem toHeaderMap_grouped (hash : String → Nat) (fits : dict.Fits hash) :
    ((∃ map, dict.toHeaderMap hash = .ok map) ↔ ∀ pair ∈ dict.pairs, IsHeader pair) ∧
      ((¬ ∀ pair ∈ dict.pairs, IsHeader pair) →
        ∃ before pair after, dict.pairs = before ++ pair :: after ∧
          (∀ earlier ∈ before, IsHeader earlier) ∧ ¬ IsHeader pair ∧
          dict.toHeaderMap hash = .error (.invalid pair.1)) ∧
      ∀ map, dict.toHeaderMap hash = .ok map →
        (ofHeaderMap map).pairs =
            grouped (dict.pairs.map fun pair => (Ascii.lower pair.1, pair.2)) ∧
          (∀ name, ((ofHeaderMap map).named name).map (·.2) = (dict.named name).map (·.2)) ∧
          (ofHeaderMap map).size = dict.size ∧
          (ofHeaderMap map).toHeaderMap hash = .ok map := by
  have reported (offends : ¬ ∀ pair ∈ dict.pairs, IsHeader pair) :
      ∃ before pair after, dict.pairs = before ++ pair :: after ∧
        (∀ earlier ∈ before, IsHeader earlier) ∧ ¬ IsHeader pair ∧
        dict.toHeaderMap hash = .error (.invalid pair.1) := by
    obtain ⟨before, pair, after, whole, valid, invalid⟩ := exists_first_not dict.pairs offends
    exact ⟨before, pair, after, whole, valid, invalid, toHeaderMap_of_room hash before after pair
      whole valid invalid (toHeaderMap_ne_tooMany hash fits)⟩
  have valid_of_taken (map : HeaderMap) (taken : dict.toHeaderMap hash = .ok map) :
      ∀ pair ∈ dict.pairs, IsHeader pair := by
    by_contra offends
    obtain ⟨-, pair, -, -, -, -, fails⟩ := reported offends
    rw [fails] at taken
    cases taken
  refine ⟨⟨fun ⟨map, taken⟩ => valid_of_taken map taken,
    fun valid => ⟨_, toHeaderMap_of_isHeader hash fits valid⟩⟩, reported, fun map taken => ?_⟩
  have valid := valid_of_taken map taken
  obtain rfl : ⟨grouped (dict.pairs.map entryOf)⟩ = map :=
    Except.ok.inj ((toHeaderMap_of_isHeader hash fits valid).symm.trans taken)
  have size : (grouped dict.lowered).length = dict.pairs.length := by
    rw [(grouped_perm _).length_eq, lowered, List.length_map]
  rw [ofHeaderMap_grouped]
  refine ⟨rfl, dict.named_grouped_lowered, size, ?_⟩
  have validAgain : ∀ pair ∈ grouped dict.lowered, IsHeader pair := by
    intro pair inside
    rw [(grouped_perm _).mem_iff] at inside
    obtain ⟨source, within, rfl⟩ := List.mem_map.mp inside
    exact ⟨(valid source within).1.lower, (valid source within).2⟩
  have again := toHeaderMap_of_isHeader hash (dict.fits_ofHeaderMap_grouped hash fits) validAgain
  rw [again, dict.map_entryOf_grouped_lowered, grouped_grouped]

/-- Values that stand under a name in different cases, with other headers between them, stay in
order.  A name with a space in it is reported. -/
theorem toHeaderMap_grouped_interleaved :
    let dict : Multidict := ⟨[("B", "1"), ("a", "ü"), ("b", "2"), ("A", "")]⟩
    let spaced : Multidict := ⟨[("a", "1"), ("bad name", "2")]⟩
    let hash := HeaderTable.nameHash
    dict.Fits hash ∧
      (∃ map, dict.toHeaderMap hash = .ok map ∧
        (ofHeaderMap map).pairs = [("b", "1"), ("b", "2"), ("a", "ü"), ("a", "")] ∧
        (ofHeaderMap map).toHeaderMap hash = .ok map) ∧
      spaced.Fits hash ∧ (¬ ∀ pair ∈ spaced.pairs, IsHeader pair) ∧
      ∃ pair ∈ spaced.pairs, ¬ IsHeader pair ∧
        spaced.toHeaderMap hash = .error (.invalid pair.1) := by
  intro dict spaced hash
  have fits : dict.Fits hash := ⟨⟨.replicate 8 none, 0, .calm⟩, by decide, by decide +kernel⟩
  have spacedFits : spaced.Fits hash := ⟨⟨.replicate 2 none, 0, .calm⟩, by decide, by decide +kernel⟩
  refine ⟨fits, ?_, spacedFits, ?_⟩
  · have taken : dict.toHeaderMap hash = .ok ⟨[("b", textBytes "1"), ("b", textBytes "2"),
        ("a", textBytes "ü"), ("a", [])]⟩ := by decide +kernel
    obtain ⟨pairs, -, -, again⟩ := (toHeaderMap_grouped dict hash fits).2.2 _ taken
    exact ⟨_, taken, pairs.trans (by decide +kernel), again⟩
  · have offends : ¬ ∀ pair ∈ spaced.pairs, IsHeader pair := fun each =>
      absurd ((each ("bad name", "2") (by decide)).1.token ' ' (by decide)) (by decide)
    obtain ⟨before, pair, after, whole, -, invalid, fails⟩ :=
      (toHeaderMap_grouped spaced hash spacedFits).2.1 offends
    exact ⟨offends, pair, by simp [whole], invalid, fails⟩

/-- A letter past ASCII is no visible ASCII character, and yet it goes over the wire. -/
theorem not_toHeaderMap_visible_only :
    ¬ ∃ hash : String → Nat, ∀ dict : Multidict, dict.Fits hash →
      ((∃ map, dict.toHeaderMap hash = .ok map) ↔
        ∀ pair ∈ dict.pairs, IsName pair.1 ∧ ∀ character ∈ pair.2.toList,
          character = '\t' ∨ 0x20 ≤ character.toNat ∧ character.toNat ≤ 0x7E) := by
  rintro ⟨hash, visible⟩
  have valid : ∀ pair ∈ [("X-Name", "ü")], IsHeader pair := by
    rw [List.forall_mem_singleton, IsHeader, isName_iff, ← all_isValueByte_iff]
    decide +kernel
  have fits := fits_of_few hash ⟨[("X-Name", "ü")]⟩ (by decide)
  have each := (visible _ fits).mp ⟨_, toHeaderMap_of_isHeader hash fits valid⟩
  exact absurd ((each _ (List.mem_singleton_self _)).2 'ü' (by decide)) (by decide)

end Multidict

end ConfinedHttp
