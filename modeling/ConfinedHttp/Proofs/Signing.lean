import ConfinedHttp.Multidict.HeaderMap
import ConfinedHttp.Proofs.SessionRun

namespace ConfinedHttp

namespace Multidict

/-- The pairs with a name in any case. -/
def named (dict : Multidict) (name : String) : List (String × String) :=
  dict.pairs.filter fun pair => Ascii.sameName pair.1 name

/-- The pairs with every other name. -/
def notNamed (dict : Multidict) (name : String) : List (String × String) :=
  dict.pairs.filter fun pair => !Ascii.sameName pair.1 name

@[simp] theorem named_eraseName (dict : Multidict) (name : String) :
    (dict.eraseName name).named name = [] := by
  simp [named, eraseName]

@[simp] theorem notNamed_eraseName (dict : Multidict) (name : String) :
    (dict.eraseName name).notNamed name = dict.notNamed name := by
  simp [notNamed, eraseName]

@[simp] theorem named_add (dict : Multidict) (name value : String) :
    (dict.add name value).named name = dict.named name ++ [(name, value)] := by
  simp [named, add, Ascii.sameName]

@[simp] theorem notNamed_add (dict : Multidict) (name value : String) :
    (dict.add name value).notNamed name = dict.notNamed name := by
  simp [notNamed, add, Ascii.sameName]

end Multidict

namespace HeaderMap

/-- The values that stand under a name. -/
def valuesOf (headers : HeaderMap) (name : String) : List Bytes :=
  (headers.entries.filter fun entry => entry.1 == Ascii.lower name).map (·.2)

/-- The header that a pair becomes. -/
def entryOf (pair : String × String) : String × Bytes := (Ascii.lower pair.1, textBytes pair.2)

/-- Inserting an entry loses none and changes none. -/
theorem insert_perm (name : String) (value : Bytes) (entries : List (String × Bytes)) :
    (insert name value entries).Perm ((name, value) :: entries) := by
  induction entries with
  | nil => exact List.Perm.refl _
  | cons entry rest inductionHypothesis =>
    rw [insert]
    split
    · have parted : rest.takeWhile (·.1 = name) ++ rest.dropWhile (·.1 = name) = rest :=
        List.takeWhile_append_dropWhile
      have moved : (entry :: rest.takeWhile (·.1 = name) ++
          (name, value) :: rest.dropWhile (·.1 = name)).Perm
          ((name, value) :: (entry :: rest.takeWhile (·.1 = name) ++
            rest.dropWhile (·.1 = name))) := List.perm_middle
      simp only [List.cons_append, parted] at moved ⊢
      exact moved
    · exact (inductionHypothesis.cons entry).trans (List.Perm.swap _ _ rest)

/-- A header that is taken is added in its form on the wire. -/
theorem entries_append_perm {headers longer : HeaderMap} (pair : String × String)
    (appended : headers.append? pair.1 (textBytes pair.2) = some longer) :
    longer.entries.Perm (entryOf pair :: headers.entries) := by
  rw [append?, Option.bind_eq_bind, Option.bind_eq_some_iff] at appended
  obtain ⟨wire, isWire, appended⟩ := appended
  have isLower : Ascii.lower pair.1 = wire := by
    rw [wireName?] at isWire
    split at isWire
    · exact Option.some.inj isWire
    · cases isWire
  split at appended
  · rw [← Option.some.inj appended, ← isLower]
    exact insert_perm _ _ _
  · cases appended

/-- Headers that are all taken hold each pair in its form on the wire, and nothing else. -/
theorem entries_appendAll_perm (hash : String → Nat) (table : HeaderTable)
    (pairs : List (String × String)) (headers map : HeaderMap)
    (taken : headers.appendAll hash table pairs = .ok map) :
    map.entries.Perm (headers.entries ++ pairs.map entryOf) := by
  induction pairs generalizing table headers with
  | nil =>
    rw [← Except.ok.inj taken, List.map_nil, List.append_nil]
  | cons pair rest inductionHypothesis =>
    rw [appendAll] at taken
    split at taken
    case h_1 => cases taken
    case h_2 longer appended =>
      dsimp only at taken
      split at taken
      case h_1 => cases taken
      case h_2 next _ =>
        have first : (longer.entries ++ rest.map entryOf).Perm
            (entryOf pair :: headers.entries ++ rest.map entryOf) :=
          (entries_append_perm pair appended).append_right _
        exact ((inductionHypothesis next longer taken).trans first).trans List.perm_middle.symm

end HeaderMap

/-- A list of headers that is taken holds under each name the values of the pairs with the name in
any case. -/
theorem Multidict.valuesOf_toHeaderMap_perm (hash : String → Nat) (dict : Multidict)
    (map : HeaderMap) (taken : dict.toHeaderMap hash = .ok map) (name : String) :
    (map.valuesOf name).Perm ((dict.named name).map fun pair => textBytes pair.2) := by
  rw [toHeaderMap] at taken
  split at taken
  case h_1 => cases taken
  case h_2 table _ =>
    have kept := HeaderMap.entries_appendAll_perm hash table dict.pairs HeaderMap.empty map taken
    have values := (kept.filter fun entry => entry.1 == Ascii.lower name).map (·.2)
    simpa [HeaderMap.valuesOf, HeaderMap.empty, List.filter_map, named, Function.comp_def,
      HeaderMap.entryOf, Ascii.sameName] using values

namespace Credentials

theorem header?_eq_none_iff (credentials : Credentials) :
    credentials.header? = none ↔ credentials = .absent := by
  cases credentials <;> simp [header?]

theorem sign_absent (headers : Multidict) : sign .absent headers = headers := rfl

variable {credentials : Credentials} {name value : String}
  (signs : credentials.header? = some (name, value))

include signs

theorem sign_eq (headers : Multidict) :
    credentials.sign headers = (headers.eraseName name).add name value := by
  simp only [sign, signs]

theorem named_sign (headers : Multidict) :
    (credentials.sign headers).named name = [(name, value)] := by
  simp [sign_eq signs]

/-- What is taken of the signed headers holds one value under the name. -/
theorem valuesOf_sign (hash : String → Nat) (headers : Multidict) (map : HeaderMap)
    (taken : (credentials.sign headers).toHeaderMap hash = .ok map) :
    map.valuesOf name = [textBytes value] := by
  have values := (credentials.sign headers).valuesOf_toHeaderMap_perm hash map taken name
  rw [named_sign signs] at values
  exact List.perm_singleton.mp values

end Credentials

namespace Requestor

end Requestor

end ConfinedHttp
