import ConfinedHttp.Proofs.Json.ValueReading

namespace ConfinedHttp

section Order

/-- Different texts have different bytes. -/
theorem textBytes_injective : Function.Injective textBytes := by
  intro left right same
  rw [← lossyText_textBytes left, same, lossyText_textBytes]

theorem precedes_iff (left right : String) :
    precedes left right = true ↔ textBytes left < textBytes right := decide_eq_true_iff

theorem precedes_trans {left middle right : String} (first : precedes left middle = true)
    (second : precedes middle right = true) : precedes left right = true := by
  rw [precedes_iff] at *
  exact List.lt_trans first second

theorem precedes_asymm {left right : String} (before : precedes left right = true) :
    precedes right left = false := by
  rw [Bool.eq_false_iff, ne_eq, precedes_iff]
  exact List.lt_asymm ((precedes_iff left right).mp before)

theorem ne_of_precedes {left right : String} (before : precedes left right = true) :
    left ≠ right := by
  rintro rfl
  exact List.lt_irrefl _ ((precedes_iff left left).mp before)

/-- Of two different texts one comes first. -/
theorem precedes_of_not_precedes {left right : String} (different : left ≠ right)
    (notBefore : precedes left right ≠ true) : precedes right left = true := by
  rw [ne_eq, precedes_iff] at notBefore
  rw [precedes_iff]
  by_contra notAfter
  exact different (textBytes_injective (List.le_antisymm notAfter notBefore))

end Order

namespace Json

section Lookup

variable {α : Type}

/-- The keys of members increase in the order of their bytes. -/
def Increasing (members : List (String × α)) : Prop :=
  members.Pairwise fun member later => precedes member.1 later.1 = true

theorem Increasing.nodup_keys {members : List (String × α)} (increasing : Increasing members) :
    (members.map (·.1)).Nodup :=
  List.pairwise_map.mpr (increasing.imp ne_of_precedes)

theorem Increasing.filter {members : List (String × α)} (increasing : Increasing members)
    (keep : String × α → Bool) : Increasing (members.filter keep) :=
  List.Pairwise.filter keep increasing

/-- Putting a member into an object adds nothing else. -/
theorem mem_of_mem_insertMember {key : String} {value : α} {gathered : List (String × α)}
    {entry : String × α} (inside : entry ∈ insertMember key value gathered) :
    entry = (key, value) ∨ entry ∈ gathered := by
  induction gathered with
  | nil => exact .inl (List.mem_singleton.mp inside)
  | cons next rest inductionHypothesis =>
    rw [insertMember] at inside
    split_ifs at inside with same before
    · exact (List.mem_cons.mp inside).imp_right (List.mem_cons_of_mem next)
    · exact List.mem_cons.mp inside
    · obtain isNext | later := List.mem_cons.mp inside
      · exact .inr (List.mem_cons.mpr (.inl isNext))
      · exact (inductionHypothesis later).imp_right (List.mem_cons_of_mem next)

theorem Increasing.insertMember {gathered : List (String × α)} (increasing : Increasing gathered)
    (key : String) (value : α) : Increasing (insertMember key value gathered) := by
  induction gathered with
  | nil => exact List.pairwise_singleton _ _
  | cons next rest inductionHypothesis =>
    obtain ⟨first, others⟩ := List.pairwise_cons.mp increasing
    rw [Json.insertMember]
    split_ifs with same before
    · subst same
      exact List.pairwise_cons.mpr ⟨first, others⟩
    · refine List.pairwise_cons.mpr ⟨?_, increasing⟩
      intro entry inside
      obtain rfl | later := List.mem_cons.mp inside
      · exact before
      · exact precedes_trans before (first entry later)
    · refine List.pairwise_cons.mpr ⟨?_, inductionHypothesis others⟩
      intro entry inside
      obtain rfl | later := mem_of_mem_insertMember inside
      · exact precedes_of_not_precedes same before
      · exact first entry later

/-- The members of an object increase, in whatever order its entries stand. -/
theorem increasing_members (entries : List (String × α)) : Increasing (Json.members entries) := by
  have gather (gathered : List (String × α)) (increasing : Increasing gathered) :
      Increasing (entries.foldl (fun gathered entry => insertMember entry.1 entry.2 gathered)
        gathered) := by
    induction entries generalizing gathered with
    | nil => exact increasing
    | cons entry others inductionHypothesis =>
      exact inductionHypothesis _ (increasing.insertMember entry.1 entry.2)
  exact gather [] List.Pairwise.nil

/-- The first member is found under its key, and the others behind it. -/
theorem lookup_cons (wanted : String) (member : String × α) (rest : List (String × α)) :
    (member :: rest).lookup wanted =
      if wanted = member.1 then some member.2 else rest.lookup wanted := by
  rw [List.lookup_cons]
  split_ifs with isKey
  · rw [beq_iff_eq.mpr isKey]
  · rw [beq_false_of_ne isKey]

/-- Putting a member into an object changes what stands under its key and nothing else. -/
theorem lookup_insertMember (key wanted : String) (value : α) (gathered : List (String × α)) :
    (insertMember key value gathered).lookup wanted =
      if wanted = key then some value else gathered.lookup wanted := by
  induction gathered with
  | nil => exact lookup_cons wanted (key, value) []
  | cons next rest inductionHypothesis =>
    rw [insertMember]
    by_cases same : key = next.1
    · subst same
      rw [if_pos rfl, lookup_cons, lookup_cons]
      split_ifs <;> rfl
    rw [if_neg same]
    by_cases before : precedes key next.1 = true
    · rw [if_pos before, lookup_cons]
    · rw [if_neg before, lookup_cons, inductionHypothesis, lookup_cons]
      by_cases isKey : wanted = key
      · subst isKey
        rw [if_neg same, if_pos rfl, if_pos rfl]
      · rw [if_neg isKey, if_neg isKey]

/-- Of entries with equal keys the last one counts. -/
theorem lookup_members (entries : List (String × α)) (wanted : String) :
    (Json.members entries).lookup wanted = entries.reverse.lookup wanted := by
  -- What was gathered before stands behind the entries, since each of them replaces it.
  have gather (gathered : List (String × α)) :
      (entries.foldl (fun gathered entry => insertMember entry.1 entry.2 gathered)
        gathered).lookup wanted = (entries.reverse ++ gathered).lookup wanted := by
    induction entries generalizing gathered with
    | nil => rfl
    | cons entry others inductionHypothesis =>
      rw [List.foldl_cons, inductionHypothesis, List.reverse_cons, List.append_assoc,
        List.lookup_append, List.lookup_append, List.singleton_append, lookup_insertMember,
        lookup_cons]
  rw [Json.members, gather, List.append_nil]

/-- A member whose key no other one has is the one that is found under its key. -/
theorem lookup_eq_some_iff_mem {members : List (String × α)} (unique : (members.map (·.1)).Nodup)
    (key : String) (value : α) : members.lookup key = some value ↔ (key, value) ∈ members := by
  induction members with
  | nil => simp
  | cons member rest inductionHypothesis =>
    obtain ⟨first, content⟩ := member
    obtain ⟨absent, uniqueRest⟩ := List.nodup_cons.mp unique
    rw [List.mem_cons, ← inductionHypothesis uniqueRest, lookup_cons]
    by_cases isFirst : key = first
    · subst isFirst
      have notLater : rest.lookup key ≠ some value := fun found =>
        absent (List.mem_map_of_mem (f := (·.1)) ((inductionHypothesis uniqueRest).mp found))
      simp [notLater, eq_comm]
    · simp [isFirst]

/-- Members without equal keys that answer every lookup alike are the same members. -/
theorem perm_of_lookup {left right : List (String × α)} (uniqueLeft : (left.map (·.1)).Nodup)
    (uniqueRight : (right.map (·.1)).Nodup)
    (same : ∀ key, left.lookup key = right.lookup key) : left.Perm right := by
  rw [List.perm_ext_iff_of_nodup (.of_map _ uniqueLeft) (.of_map _ uniqueRight)]
  rintro ⟨key, value⟩
  rw [← lookup_eq_some_iff_mem uniqueLeft, same, lookup_eq_some_iff_mem uniqueRight]

/-- An object is determined by what stands under its keys. -/
theorem Increasing.eq_of_lookup {left right : List (String × α)} (increasingLeft : Increasing left)
    (increasingRight : Increasing right) (same : ∀ key, left.lookup key = right.lookup key) :
    left = right := by
  refine List.Perm.eq_of_pairwise ?_ increasingLeft increasingRight
    (perm_of_lookup increasingLeft.nodup_keys increasingRight.nodup_keys same)
  intro member other _ _ before after
  exact absurd after (by simp [precedes_asymm before])

/-- Entries without equal keys become the members of an object, in another order. -/
theorem members_perm {entries : List (String × α)} (unique : (entries.map (·.1)).Nodup) :
    (Json.members entries).Perm entries := by
  have reversed : (entries.reverse.map (·.1)).Nodup := by
    rw [List.map_reverse]
    exact List.nodup_reverse.mpr unique
  exact (perm_of_lookup (increasing_members entries).nodup_keys reversed
    (lookup_members entries)).trans (List.reverse_perm entries)

theorem lookup_members_of_nodup {entries : List (String × α)}
    (unique : (entries.map (·.1)).Nodup) (key : String) :
    (Json.members entries).lookup key = entries.lookup key := by
  apply Option.ext
  intro value
  rw [lookup_eq_some_iff_mem (increasing_members entries).nodup_keys, lookup_eq_some_iff_mem unique,
    (members_perm unique).mem_iff]

/-- Choosing members by their keys leaves what stands under the chosen keys. -/
theorem lookup_filter (keep : String → Bool) (members : List (String × α)) (key : String) :
    (members.filter fun member => keep member.1).lookup key =
      if keep key then members.lookup key else none := by
  induction members with
  | nil => simp
  | cons member rest inductionHypothesis =>
    obtain ⟨first, content⟩ := member
    by_cases isFirst : key = first
    · subst isFirst
      rw [List.filter_cons]
      split_ifs with kept
      · rw [lookup_cons, lookup_cons, if_pos rfl, if_pos rfl]
      · rw [inductionHypothesis, if_neg kept]
    · rw [lookup_cons, if_neg isFirst, ← inductionHypothesis, List.filter_cons]
      split_ifs with kept
      · rw [lookup_cons, if_neg isFirst]
      · rfl

end Lookup

end Json

end ConfinedHttp
