import ConfinedHttp.Proofs.HeaderGrouping
import ConfinedHttp.Wire

/-!
Headers break the transport down when there is no room for them.  No table can be made for more than
24576 of them, and a crowded table of the greatest size cannot grow when a fifth of its places is taken.
-/

namespace ConfinedHttp

namespace Multidict

open HeaderMap

/-- Headers overflow when no table can be made for their number, or when a valid header comes to a table
that is crowded with valid ones and has the greatest size.  A fifth of its places is taken then. -/
inductive Overflows (hash : String → Nat) (dict : Multidict) : Prop
  | count (many : 24576 < dict.size)
  | crowding (table last : HeaderTable) (before after : List (String × String))
      (pair : String × String) (made : HeaderTable.make? dict.size = some table)
      (whole : dict.pairs = before ++ pair :: after)
      (valid : ∀ header ∈ before, IsHeader header) (next : IsHeader pair)
      (taken : table.takeAll? hash [] (before.map fun header => Ascii.lower header.1) = some last)
      (crowded : last.danger = .crowded) (full : last.places = HeaderTable.greatest)
      (loaded : HeaderTable.greatest ≤ 5 * last.used)

section Room

variable (hash : String → Nat) {dict : Multidict}

/-- Valid headers that a table does not take overflow. -/
theorem overflows_of_takeAll? {table : HeaderTable} {front rest : List (String × String)}
    (made : HeaderTable.make? dict.size = some table) (whole : dict.pairs = front ++ rest)
    (valid : ∀ header ∈ front, IsHeader header)
    (fails : table.takeAll? hash [] (front.map fun header => Ascii.lower header.1) = none) :
    dict.Overflows hash := by
  obtain ⟨sound, -, -⟩ := HeaderTable.isSound_of_make? made
  obtain ⟨names, name, others, last, parts, taken, spent⟩ :=
    (HeaderTable.takeAll?_eq_none_iff hash sound [] _).mp fails
  obtain ⟨before, behind, rfl, rfl, isBehind⟩ := List.map_eq_append_iff.mp parts
  obtain ⟨pair, after, rfl, -, -⟩ := List.map_eq_cons_iff.mp isBehind
  have few : (before.map fun header => Ascii.lower header.1).length < dict.size := by
    simp [size, whole]
  obtain ⟨crowded, full, loaded⟩ := HeaderTable.crowded_of_isSpent hash made few taken spent
  obtain ⟨validBefore, validBehind⟩ := List.forall_mem_append.mp valid
  exact .crowding table last before (after ++ rest) pair made
    (by rw [whole, List.append_assoc, List.cons_append]) validBefore
    (validBehind pair List.mem_cons_self) taken crowded full loaded

/-- A table does not take the names of headers that crowd it. -/
theorem takeAll?_of_crowding {table last : HeaderTable} (sound : table.IsSound)
    (names : List String) (name : String) (taken : table.takeAll? hash [] names = some last)
    (crowded : last.danger = .crowded) (full : last.places = HeaderTable.greatest)
    (loaded : HeaderTable.greatest ≤ 5 * last.used) :
    table.takeAll? hash [] (names ++ [name]) = none :=
  (HeaderTable.takeAll?_eq_none_iff hash sound [] _).mpr
    ⟨names, name, [], last, rfl, taken, full, by rwa [if_pos crowded]⟩

/-- Headers are too many exactly when they overflow. -/
theorem toHeaderMap_eq_tooMany_iff :
    dict.toHeaderMap hash = .error .tooMany ↔ dict.Overflows hash := by
  constructor
  · intro broken
    cases made : HeaderTable.make? dict.size with
    | none => exact .count ((HeaderTable.make?_eq_none_iff dict.size).mp made)
    | some table =>
      obtain ⟨front, rest, whole, valid, -, outcome⟩ := exists_front hash made
      apply overflows_of_takeAll? hash made whole valid
      rw [outcome] at broken
      by_contra taken
      obtain ⟨next, run⟩ := Option.ne_none_iff_exists'.mp taken
      rw [run] at broken
      cases rest <;> cases broken
  · rintro (many | ⟨table, last, before, after, pair, made, whole, valid, next, taken, crowded, full,
      loaded⟩)
    · exact toHeaderMap_of_many hash _ many
    · have fails := takeAll?_of_crowding hash (HeaderTable.isSound_of_make? made).1 _
        (Ascii.lower pair.1) taken crowded full loaded
      have front : ∀ header ∈ before ++ [pair], IsHeader header :=
        List.forall_mem_append.mpr ⟨valid, by simpa using next⟩
      rw [toHeaderMap_of_made hash made (before ++ [pair]) after (by simp [whole]) front,
        List.map_append, List.map_singleton, fails]
      rfl

end Room

/-- Headers break the transport down exactly when they overflow: when there are more than 24576 of them,
or when they crowd a table that cannot grow any more.  Up to 6554 headers never do, whatever their names
are.  Otherwise the headers are sent, or the first one that is not valid is reported. -/
theorem toHeaderMap_by_room (hash : String → Nat) (dict : Multidict) :
    (dict.toHeaderMap hash = .error .tooMany ↔ dict.Overflows hash) ∧
      (dict.size ≤ 6554 → ¬ dict.Overflows hash) ∧
      ∀ method url body link,
        let answer := Wire.transport hash link ⟨method, url, dict, body⟩
        (dict.Overflows hash → answer = .brokenDown) ∧
          (¬ dict.Overflows hash →
            (∃ wire, dict.toHeaderMap hash = .ok wire.headers ∧ answer = link wire) ∨
            ∃ before pair after, dict.pairs = before ++ pair :: after ∧
              (∀ earlier ∈ before, IsHeader earlier) ∧ ¬ IsHeader pair ∧
              dict.toHeaderMap hash = .error (.invalid pair.1) ∧
              answer = .failed (.input (.badHeader pair.1))) := by
  have tooMany := @toHeaderMap_eq_tooMany_iff hash dict
  refine ⟨tooMany, fun few overflows => ?_, fun method url body link => ?_⟩
  · exact toHeaderMap_ne_tooMany hash (fits_of_few hash dict few) (tooMany.mpr overflows)
  simp only [Wire.transport, Wire.request]
  refine ⟨fun overflows => by rw [tooMany.mpr overflows]; rfl, fun room => ?_⟩
  cases outcome : dict.toHeaderMap hash with
  | ok headers => exact .inl ⟨_, rfl, rfl⟩
  | error failure =>
    cases failure with
    | tooMany => exact absurd (tooMany.mp outcome) room
    | invalid name =>
      obtain ⟨before, pair, after, whole, earlier, invalid, rfl⟩ :=
        exists_first_invalid hash outcome
      exact .inr ⟨before, pair, after, whole, earlier, invalid, rfl, rfl⟩

/-- Enough headers break the transport down wherever their names belong, even when the first one would be
reported by itself. -/
theorem not_toHeaderMap_of_many :
    ¬ ∃ hash : String → Nat, ∀ dict : Multidict, (∃ headers, dict.toHeaderMap hash = .ok headers) ∨
      ∃ name, dict.toHeaderMap hash = .error (.invalid name) := by
  rintro ⟨hash, safe⟩
  obtain ⟨dict, isLarge⟩ : ∃ dict : Multidict, dict.size = 24577 :=
    ⟨⟨("bad name", "") :: List.replicate 24576 ("a", "")⟩, by
      rw [size, List.length_cons, List.length_replicate]⟩
  have broken := dict.toHeaderMap_of_many hash (by omega)
  rcases safe dict with ⟨headers, taken⟩ | ⟨name, refused⟩
  · cases broken.symm.trans taken
  · cases broken.symm.trans refused

end Multidict

end ConfinedHttp
