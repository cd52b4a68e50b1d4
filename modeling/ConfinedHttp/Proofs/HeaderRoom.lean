import ConfinedHttp.Multidict.HeaderTable
import Mathlib.Algebra.Group.Nat.Defs
import Mathlib.Data.List.Induction
import Mathlib.Order.Basic

/-!
A table keeps room for the headers that it was made for.  What it needs depends on its different names
and their order alone.
-/

namespace ConfinedHttp

namespace HeaderTable

section Size

theorem le_powerFrom (number : Nat) : number ≤ powerFrom number := by
  rw [powerFrom]
  split
  case isTrue small => exact small
  case isFalse => exact Nat.le_of_pred_lt Nat.lt_log2_self

theorem powerFrom_le_iff (number power : Nat) :
    powerFrom number ≤ 2 ^ power ↔ number ≤ 2 ^ power := by
  refine ⟨Nat.le_trans (le_powerFrom number), fun small => ?_⟩
  rw [powerFrom]
  split
  case isTrue => exact Nat.one_le_two_pow
  case isFalse large =>
    refine Nat.pow_le_pow_right (by decide) ?_
    exact (Nat.log2_lt (by omega)).mpr (by omega)

theorem exists_powerFrom (number : Nat) : ∃ power, powerFrom number = 2 ^ power := by
  rw [powerFrom]
  split
  case isTrue => exact ⟨0, rfl⟩
  case isFalse => exact ⟨_, rfl⟩

/-- The sizes that a table can have: none, or a power of two up to the greatest one. -/
def IsSize (places : Nat) : Prop := places = 0 ∨ ∃ power ≤ 15, places = 2 ^ power

theorem isSize_placesFor {count : Nat} (fits : placesFor count ≤ greatest) :
    IsSize (placesFor count) := by
  have last : greatest = 2 ^ 15 := rfl
  by_cases none : count = 0
  · exact .inl (if_pos none)
  · rw [placesFor, if_neg none] at fits ⊢
    obtain ⟨power, isPower⟩ := exists_powerFrom (count + count / 3)
    rw [isPower, last, Nat.pow_le_pow_iff_right (by decide)] at fits
    exact .inr ⟨power, fits, isPower⟩

theorem placesFor_le_iff (count : Nat) : placesFor count ≤ greatest ↔ count ≤ 24576 := by
  have last : greatest = 2 ^ 15 := rfl
  rw [placesFor]
  split
  case isTrue => omega
  case isFalse =>
    rw [last, powerFrom_le_iff]
    omega

/-- A table that is made for a number of headers holds as many names. -/
theorem le_placesFor (count : Nat) : count ≤ placesFor count - placesFor count / 4 := by
  rw [placesFor]
  split
  case isTrue => omega
  case isFalse =>
    have enough := le_powerFrom (count + count / 3)
    obtain ⟨power, isPower⟩ := exists_powerFrom (count + count / 3)
    rw [isPower] at enough ⊢
    -- Only a table of one place or two has none to keep free.
    match power, enough with
    | 0, enough => omega
    | 1, enough => omega
    | power + 2, enough =>
      rw [Nat.pow_add] at enough ⊢
      omega

theorem IsSize.le_greatest {places : Nat} (size : IsSize places) : places ≤ greatest := by
  obtain rfl | ⟨power, small, rfl⟩ := size
  · decide
  · exact Nat.pow_le_pow_right (by decide) small

/-- A size can be doubled unless it is the greatest one. -/
theorem IsSize.double_or {places : Nat} (size : IsSize places) :
    places = greatest ∨ IsSize (2 * places) := by
  obtain rfl | ⟨power, small, rfl⟩ := size
  · exact .inr (.inl rfl)
  · by_cases isLast : power = 15
    · exact .inl (by rw [isLast]; rfl)
    · exact .inr (.inr ⟨power + 1, by omega, (Nat.pow_succ' ..).symm⟩)

end Size

section Slots

@[simp] theorem size_settle (hash place turns : Nat) (slots : Array (Option Nat)) :
    (settle slots hash place turns).size = slots.size := by
  induction turns generalizing place with
  | zero => rfl
  | succ turns inductionHypothesis =>
    rw [settle]
    split
    · exact inductionHypothesis _
    · exact Array.size_setIfInBounds ..

@[simp] theorem size_push (hash place turns : Nat) (slots : Array (Option Nat)) :
    (push slots hash place turns).1.size = slots.size := by
  induction turns generalizing slots hash place with
  | zero => rfl
  | succ turns inductionHypothesis =>
    rw [push]
    split
    · exact (inductionHypothesis _ _ _).trans (Array.size_setIfInBounds ..)
    · exact Array.size_setIfInBounds ..

@[simp] theorem size_probe (hash place far turns : Nat) (slots : Array (Option Nat)) :
    (probe slots hash place far turns).1.size = slots.size := by
  induction turns generalizing place far with
  | zero => rfl
  | succ turns inductionHypothesis =>
    rw [probe]
    split
    · split
      · exact size_push ..
      · exact inductionHypothesis _ _
    · exact Array.size_setIfInBounds ..

@[simp] theorem size_spread (slots : Array (Option Nat)) (places : Nat) :
    (spread slots places).size = places := by
  have kept (hashes : List Nat) (larger : Array (Option Nat)) :
      (hashes.foldl (fun larger hash => settle larger hash (hash % places) places) larger).size =
        larger.size := by
    induction hashes generalizing larger with
    | nil => rfl
    | cons hash rest inductionHypothesis =>
      exact (inductionHypothesis _).trans (size_settle ..)
  exact (kept _ _).trans Array.size_replicate

end Slots

section Steps

variable {table : HeaderTable}

@[simp] theorem places_hold (hash : Nat) : (table.hold hash).places = table.places := by
  rw [hold]
  split
  · rfl
  · exact size_probe ..

@[simp] theorem capacity_hold (hash : Nat) : (table.hold hash).capacity = table.capacity := by
  rw [capacity, capacity, places_hold]

@[simp] theorem used_hold (hash : Nat) : (table.hold hash).used = table.used + 1 := by
  rw [hold]
  split <;> rfl

/-- A table has one of the possible sizes and holds at most the names that it has room for.  A crowded
one holds some. -/
structure IsSound (table : HeaderTable) : Prop where
  size : IsSize table.places
  within : table.used ≤ table.capacity
  occupied : table.danger = .crowded → 0 < table.used

/-- A table that is not crowded has room for one more name. -/
structure IsRoomy (table : HeaderTable) : Prop where
  size : IsSize table.places
  settled : table.danger ≠ .crowded
  room : table.used < table.capacity

theorem IsRoomy.isSound (roomy : table.IsRoomy) : table.IsSound :=
  ⟨roomy.size, Nat.le_of_lt roomy.room, fun crowded => absurd crowded roomy.settled⟩

theorem IsRoomy.hold (roomy : table.IsRoomy) (hash : Nat) : (table.hold hash).IsSound := by
  refine ⟨?_, ?_, fun _ => ?_⟩
  · rw [places_hold]
    exact roomy.size
  · rw [used_hold, capacity_hold]
    exact roomy.room
  · rw [used_hold]
    exact Nat.succ_pos _

theorem reserve?_of_isRoomy (roomy : table.IsRoomy) : table.reserve? = some table := by
  have room := roomy.room
  rw [reserve?, if_neg roomy.settled, if_neg (by omega)]

/-- A table is spent when it would have to grow and has the greatest size. -/
def IsSpent (table : HeaderTable) : Prop :=
  table.places = greatest ∧
    if table.danger = .crowded then greatest ≤ 5 * table.used else table.used = table.capacity

/-- What comes of making room: there is room for one more name, the names stay, and the table has not
become smaller. -/
structure MakesRoom (table roomy : HeaderTable) : Prop extends roomy.IsRoomy where
  used : roomy.used = table.used
  larger : table.capacity ≤ roomy.capacity

/-- A table that is not crowded gets room when it grows. -/
theorem grow?_makesRoom {places : Nat} (settled : table.danger ≠ .crowded) (size : IsSize places)
    (larger : table.places ≤ places) (room : table.used < places - places / 4) :
    ∃ roomy, table.grow? places = some roomy ∧ table.MakesRoom roomy := by
  refine ⟨_, if_pos size.le_greatest, ?_⟩
  have placed : HeaderTable.places { table with slots := spread table.slots places } = places :=
    size_spread ..
  refine ⟨⟨?_, settled, ?_⟩, rfl, ?_⟩
  · rwa [placed]
  · rwa [capacity, placed]
  · rw [capacity, capacity, placed]
    omega

/-- A spent table has no room to make. -/
theorem reserve?_of_isSpent (spent : table.IsSpent) : table.reserve? = none := by
  obtain ⟨size, full⟩ := spent
  have large : ¬ 2 * greatest ≤ greatest := by decide
  rw [reserve?, size]
  split_ifs at full ⊢ with crowded empty
  · exact if_neg large
  · rw [full, capacity, size] at empty
    exact absurd empty (by decide)
  · exact if_neg large

/-- Every other table can make room. -/
theorem exists_makesRoom (sound : table.IsSound) (notSpent : ¬ table.IsSpent) :
    ∃ roomy, table.reserve? = some roomy ∧ table.MakesRoom roomy := by
  have within := sound.within
  rw [capacity] at within
  rw [IsSpent] at notSpent
  rw [reserve?]
  split_ifs at notSpent ⊢ with crowded loaded full empty
  · -- A crowded table with enough names becomes calm and grows.
    have some := sound.occupied crowded
    have double := sound.size.double_or.resolve_left fun last => notSpent ⟨last, last ▸ loaded⟩
    obtain ⟨roomy, grown, makes⟩ := @grow?_makesRoom { table with danger := .calm } _ nofun double
      (by simp only [places]; omega) (by simp only [places] at within ⊢; omega)
    exact ⟨roomy, grown, ⟨makes.toIsRoomy, makes.used, makes.larger⟩⟩
  · -- One with few names is guarded.
    have same : HeaderTable.places
        ⟨.replicate table.places none, table.used, .guarded⟩ = table.places := Array.size_replicate
    refine ⟨_, rfl, ⟨?_, nofun, ?_⟩, rfl, ?_⟩
    · rw [same]
      exact sound.size
    · rw [capacity, same]
      change table.used < _
      omega
    · exact Nat.le_of_eq (by rw [capacity, capacity, same])
  · -- A full table without a name has no places.
    have empty' : table.places = 0 := by
      rw [capacity] at full
      omega
    exact grow?_makesRoom crowded (.inr ⟨3, by decide, rfl⟩) (by omega) (by omega)
  · rw [capacity] at full
    have double := sound.size.double_or.resolve_left fun last => notSpent ⟨last, full⟩
    exact grow?_makesRoom crowded double (by omega) (by omega)
  · exact ⟨table, rfl, ⟨sound.size, crowded, Nat.lt_of_le_of_ne sound.within full⟩, rfl, Nat.le_refl _⟩

/-- What comes of taking a name: there is at most one name more, and the table has not become smaller. -/
structure Takes (table next : HeaderTable) : Prop extends next.IsSound where
  used : next.used ≤ table.used + 1
  larger : table.capacity ≤ next.capacity

theorem take?_of_isSpent (spent : table.IsSpent) (hash : Nat) (known : Bool) :
    table.take? hash known = none := by
  rw [take?, reserve?_of_isSpent spent, Option.map_none]

theorem exists_takes (sound : table.IsSound) (notSpent : ¬ table.IsSpent) (hash : Nat)
    (known : Bool) : ∃ next, table.take? hash known = some next ∧ table.Takes next := by
  obtain ⟨roomy, reserved, makes⟩ := exists_makesRoom sound notSpent
  have used := makes.used
  rw [take?, reserved]
  refine ⟨_, rfl, ?_⟩
  cases known
  case true => exact ⟨makes.isSound, by simp only [if_pos]; omega, makes.larger⟩
  case false =>
    refine ⟨makes.hold hash, ?_, ?_⟩
    · exact (used_hold hash).trans_le (by omega)
    · exact makes.larger.trans_eq (capacity_hold hash).symm

/-- Room that was made is there when it is asked for again. -/
theorem bind_reserve?_reserve? (sound : table.IsSound) :
    table.reserve?.bind reserve? = table.reserve? := by
  by_cases spent : table.IsSpent
  · rw [reserve?_of_isSpent spent, Option.bind_none]
  · obtain ⟨roomy, reserved, makes⟩ := exists_makesRoom sound spent
    rw [reserved, Option.bind_some, reserve?_of_isRoomy makes.toIsRoomy]

/-- A known name needs room as well and does not use it. -/
theorem bind_take?_known (sound : table.IsSound) (hash : Nat) :
    (table.take? hash true).bind reserve? = table.reserve? := by
  rw [take?, Option.bind_map]
  exact bind_reserve?_reserve? sound

theorem bind_take?_new (hash : Nat) :
    (table.take? hash false).bind reserve? =
      table.reserve?.bind fun roomy => (roomy.hold hash).reserve? := by
  rw [take?, Option.bind_map]
  rfl

theorem make?_eq_none_iff (count : Nat) : make? count = none ↔ 24576 < count := by
  rw [make?, ← Nat.not_le, ← placesFor_le_iff]
  split <;> simp [*]

theorem isSound_of_make? {count : Nat} (made : make? count = some table) :
    table.IsSound ∧ table.used = 0 ∧ count ≤ table.capacity := by
  rw [make?] at made
  split at made
  case isTrue fits =>
    obtain rfl := Option.some.inj made
    have placed : HeaderTable.places ⟨.replicate (placesFor count) none, 0, .calm⟩ =
        placesFor count := Array.size_replicate
    refine ⟨⟨?_, Nat.zero_le _, nofun⟩, rfl, ?_⟩
    · rw [placed]
      exact isSize_placesFor fits
    · rw [capacity, placed]
      exact le_placesFor count
  case isFalse => cases made

end Steps

section Runs

/-- This function takes names one after another.  A name is known when it stands before. -/
def takeAll? (hash : String → Nat) (table : HeaderTable) (earlier : List String) :
    List String → Option HeaderTable
  | [] => some table
  | name :: rest =>
    (table.take? (hash name) (earlier.contains name)).bind fun next =>
      takeAll? hash next (earlier ++ [name]) rest

variable (hash : String → Nat) {table : HeaderTable}

theorem takeAll?_append (earlier front back : List String) :
    table.takeAll? hash earlier (front ++ back) =
      (table.takeAll? hash earlier front).bind fun next =>
        next.takeAll? hash (earlier ++ front) back := by
  induction front generalizing table earlier with
  | nil => rw [List.nil_append, List.append_nil, takeAll?, Option.bind_some]
  | cons name rest inductionHypothesis =>
    rw [List.cons_append, takeAll?, takeAll?, Option.bind_assoc]
    congr 1
    funext next
    rw [inductionHypothesis, List.append_assoc, List.singleton_append]

theorem takeAll?_concat (earlier names : List String) (name : String) :
    table.takeAll? hash earlier (names ++ [name]) =
      (table.takeAll? hash earlier names).bind fun next =>
        next.take? (hash name) ((earlier ++ names).contains name) := by
  rw [takeAll?_append]
  congr 1
  funext next
  rw [takeAll?]
  exact Option.bind_fun_some _

/-- A run of names adds at most as many, and the table does not become smaller. -/
theorem IsSound.takeAll? (sound : table.IsSound) {earlier names : List String} {last : HeaderTable}
    (taken : table.takeAll? hash earlier names = some last) :
    last.IsSound ∧ last.used ≤ table.used + names.length ∧ table.capacity ≤ last.capacity := by
  induction names generalizing table earlier with
  | nil =>
    obtain rfl := Option.some.inj taken
    exact ⟨sound, Nat.le_refl _, Nat.le_refl _⟩
  | cons name rest inductionHypothesis =>
    rw [HeaderTable.takeAll?, Option.bind_eq_some_iff] at taken
    obtain ⟨next, first, taken⟩ := taken
    have notSpent : ¬ table.IsSpent := fun spent => by
      rw [take?_of_isSpent spent] at first
      cases first
    obtain ⟨other, same, takes⟩ := exists_takes sound notSpent (hash name) (earlier.contains name)
    obtain rfl := Option.some.inj (same.symm.trans first)
    obtain ⟨lastSound, used, larger⟩ := inductionHypothesis takes.toIsSound taken
    have usedFirst := takes.used
    have largerFirst := takes.larger
    rw [List.length_cons]
    exact ⟨lastSound, by omega, by omega⟩

/-- Names cannot all be taken exactly when one of them meets a spent table. -/
theorem takeAll?_eq_none_iff (sound : table.IsSound) (earlier names : List String) :
    table.takeAll? hash earlier names = none ↔
      ∃ before name after last, names = before ++ name :: after ∧
        table.takeAll? hash earlier before = some last ∧ last.IsSpent := by
  constructor
  · intro fails
    induction names generalizing table earlier with
    | nil => cases fails
    | cons name rest inductionHypothesis =>
      by_cases spent : table.IsSpent
      · exact ⟨[], name, rest, table, rfl, rfl, spent⟩
      · obtain ⟨next, first, takes⟩ := exists_takes sound spent (hash name) (earlier.contains name)
        rw [takeAll?, first, Option.bind_some] at fails
        obtain ⟨before, other, after, last, rfl, taken, lastSpent⟩ :=
          inductionHypothesis takes.toIsSound _ fails
        refine ⟨name :: before, other, after, last, rfl, ?_, lastSpent⟩
        rw [takeAll?, first, Option.bind_some, taken]
  · rintro ⟨before, name, after, last, rfl, taken, spent⟩
    rw [takeAll?_append, taken, Option.bind_some, takeAll?, take?_of_isSpent spent, Option.bind_none]

/-- A table that was made for names is spent by them only when it is crowded. -/
theorem crowded_of_isSpent {count : Nat} {before : List String} {last : HeaderTable}
    (made : make? count = some table) (few : before.length < count)
    (taken : table.takeAll? hash [] before = some last) (spent : last.IsSpent) :
    last.danger = .crowded ∧ last.places = greatest ∧ greatest ≤ 5 * last.used := by
  obtain ⟨sound, unused, enough⟩ := isSound_of_make? made
  obtain ⟨-, used, larger⟩ := sound.takeAll? hash taken
  obtain ⟨size, full⟩ := spent
  by_cases crowded : last.danger = .crowded
  · exact ⟨crowded, size, by rwa [if_pos crowded] at full⟩
  · rw [if_neg crowded] at full
    omega

/-- Few names can always be taken, wherever they belong. -/
theorem isSome_takeAll?_of_few {names : List String} (few : names.length ≤ 6554)
    (made : make? names.length = some table) : (table.takeAll? hash [] names).isSome := by
  obtain ⟨sound, unused, -⟩ := isSound_of_make? made
  rw [Option.isSome_iff_ne_none, Ne, takeAll?_eq_none_iff hash sound]
  rintro ⟨before, name, after, last, whole, taken, spent⟩
  have length : before.length < names.length := by
    rw [whole, List.length_append, List.length_cons]
    omega
  obtain ⟨-, -, loaded⟩ := crowded_of_isSpent hash made length taken spent
  obtain ⟨-, used, -⟩ := sound.takeAll? hash taken
  have greatestSize : greatest = 32768 := rfl
  omega

section Grouping

theorem eraseDups_concat (names : List String) (name : String) :
    (names ++ [name]).eraseDups =
      if name ∈ names then names.eraseDups else names.eraseDups ++ [name] := by
  rw [List.eraseDups_append]
  split
  case isTrue known => simp [List.removeAll, known]
  case isFalse new => simp [List.removeAll, new, List.eraseDups_cons]

/-- What a table needs for one more name depends only on the different names before and their order. -/
theorem bind_reserve?_takeAll? (sound : table.IsSound) (names : List String) :
    (table.takeAll? hash [] names).bind reserve? =
      table.reserve?.bind
        (names.eraseDups.foldlM fun roomy name => (roomy.hold (hash name)).reserve?) := by
  induction names using List.reverseRecOn with
  | nil => exact (Option.bind_fun_some _).symm
  | append_singleton names name inductionHypothesis =>
    rw [takeAll?_concat, List.nil_append, Option.bind_assoc, eraseDups_concat]
    split
    case isTrue known =>
      rw [← inductionHypothesis, List.contains_iff_mem.mpr known]
      -- The table in between is sound.
      cases taken : table.takeAll? hash [] names with
      | none => rfl
      | some next => exact bind_take?_known (sound.takeAll? hash taken).1 (hash name)
    case isFalse new =>
      have isNew : names.contains name = false := by simpa using new
      simp only [isNew, bind_take?_new, List.foldlM_append, List.foldlM_cons, List.foldlM_nil]
      rw [← Option.bind_assoc, inductionHypothesis, Option.bind_assoc]
      congr 1
      funext roomy
      simp only [Option.bind_eq_bind, Option.pure_def, Option.bind_fun_some]

theorem isSome_takeAll?_concat (names : List String) (name : String) :
    (table.takeAll? hash [] (names ++ [name])).isSome =
      ((table.takeAll? hash [] names).bind reserve?).isSome := by
  rw [takeAll?_concat]
  simp [take?, Option.isSome_bind]

/-- Names can be taken when other names can be that need at least as much room. -/
theorem isSome_takeAll?_of_prefix (sound : table.IsSound) {names others : List String}
    (fewer : others.eraseDups <+: names.eraseDups) (name other : String)
    (taken : (table.takeAll? hash [] (names ++ [name])).isSome) :
    (table.takeAll? hash [] (others ++ [other])).isSome := by
  obtain ⟨rest, whole⟩ := fewer
  rw [isSome_takeAll?_concat, bind_reserve?_takeAll? hash sound] at taken ⊢
  simp only [← whole, List.foldlM_append, Option.bind_eq_bind, ← Option.bind_assoc] at taken
  exact Option.isSome_of_isSome_bind taken

end Grouping

end Runs

end HeaderTable

end ConfinedHttp
