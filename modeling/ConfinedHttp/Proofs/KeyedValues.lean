import ConfinedHttp.Proofs.RequestPayload
import Mathlib.Algebra.BigOperators.Group.Finset.Basic
import Mathlib.Logic.Function.Basic

/-!
A multidict against the simplest picture of it: a list of values for every key.  Every update does to
the picture what it does to the pairs, and every reader reports the picture.  The picture does not say
how the pairs of different keys stand among each other, which is stated beside it.
-/

namespace ConfinedHttp.Multidict

/-- The pairs with other keys. -/
def erase (dict : Multidict) (key : String) : Multidict := ⟨dict.pairs.filter (·.1 ≠ key)⟩

/-- A removal gives all values of the key and leaves the pairs with other keys. -/
theorem remove_eq (dict : Multidict) (key : String) :
    dict.remove key = (dict.getAll key, dict.erase key) := by
  have parted (pairs : List (String × String)) : removePairs key pairs =
      ((pairs.filter (·.1 = key)).map (·.2), pairs.filter (·.1 ≠ key)) := by
    induction pairs with
    | nil => rfl
    | cons pair rest inductionHypothesis =>
      rw [removePairs, inductionHypothesis]
      by_cases isKey : pair.1 = key <;> simp [isKey]
  rw [remove, parted]
  rfl

/-- One change to a multidict. -/
inductive Update where
  | add (key value : String)
  | set (key value : String)
  | remove (key : String)
  | removeName (name : String)
  | extend (pairs : List (String × String))
deriving DecidableEq, Repr

namespace Update

/-- This function makes a change.  Only a removal by key has an answer: the values that it removed. -/
def apply (dict : Multidict) : Update → Option (List String) × Multidict
  | add key value => (none, dict.add key value)
  | set key value => (none, dict.set key value)
  | remove key =>
    let (removed, left) := dict.remove key
    (some removed, left)
  | removeName name => (none, dict.eraseName name)
  | extend pairs => (none, dict.extend pairs)

/-- This function makes a change to the lists of values. -/
def onLists (lists : String → List String) :
    Update → Option (List String) × (String → List String)
  | add key value => (none, Function.update lists key (lists key ++ [value]))
  | set key value => (none, Function.update lists key [value])
  | remove key => (some (lists key), Function.update lists key [])
  | removeName name => (none, fun key => if Ascii.sameName key name then [] else lists key)
  | extend pairs =>
    (none, pairs.foldl
      (fun longer pair => Function.update longer pair.1 (longer pair.1 ++ [pair.2])) lists)

/-- This function tests whether a change is about a key. -/
def touches (key : String) : Update → Bool
  | add changed _ => key = changed
  | set changed _ => key = changed
  | remove changed => key = changed
  | removeName name => Ascii.sameName key name
  | extend pairs => pairs.any fun pair => key = pair.1

/-- This function makes changes one after another.  It gives the answers, in order, and what the
changes lead to. -/
def run {State : Type} (step : State → Update → Option (List String) × State) (state : State) :
    List Update → List (Option (List String)) × State
  | [] => ([], state)
  | update :: rest =>
    let done := step state update
    let later := run step done.2 rest
    (done.1 :: later.1, later.2)

end Update

/-- This function makes changes to a multidict and leaves the answers out. -/
def updated (dict : Multidict) (updates : List Update) : Multidict :=
  (Update.run Update.apply dict updates).2

@[simp] theorem updated_nil (dict : Multidict) : dict.updated [] = dict := rfl

@[simp] theorem updated_cons (dict : Multidict) (update : Update) (rest : List Update) :
    dict.updated (update :: rest) = (update.apply dict).2.updated rest := rfl

theorem apply_remove (dict : Multidict) (key : String) :
    (Update.remove key).apply dict = (some (dict.getAll key), dict.erase key) := by
  rw [Update.apply, remove_eq]

section Lists

variable (dict : Multidict) (key : String)

theorem getAll_add (added value : String) :
    (dict.add added value).getAll key =
      if key = added then dict.getAll key ++ [value] else dict.getAll key := by
  by_cases same : key = added
  · simp [getAll, add, same]
  · simp [getAll, add, same, Ne.symm same]

/-- A choice of keys leaves the values of the keys that it takes and no others. -/
theorem getAll_filter (keeps : String → Bool) :
    (⟨dict.pairs.filter fun pair => keeps pair.1⟩ : Multidict).getAll key =
      if keeps key then dict.getAll key else [] := by
  simp only [getAll, List.filter_filter]
  split
  case isTrue kept =>
    congr 1
    apply List.filter_congr
    intro pair _
    by_cases isKey : pair.1 = key <;> simp [isKey, kept]
  case isFalse dropped =>
    rw [List.map_eq_nil_iff, List.filter_eq_nil_iff]
    intro pair _
    by_cases isKey : pair.1 = key <;> simp [isKey, dropped]

theorem getAll_erase (removed : String) :
    (dict.erase removed).getAll key = if key = removed then [] else dict.getAll key := by
  rw [erase, getAll_filter dict key fun other => decide (other ≠ removed)]
  by_cases same : key = removed <;> simp [same]

theorem getAll_eraseName (name : String) :
    (dict.eraseName name).getAll key =
      if Ascii.sameName key name then [] else dict.getAll key := by
  rw [eraseName, getAll_filter dict key fun other => !Ascii.sameName other name]
  by_cases same : Ascii.sameName key name = true <;> simp [same]

/-- A value that was set is the only one of its key. -/
theorem filter_setPairs_eq_singleton (value : String) (pairs : List (String × String)) :
    (setPairs key value pairs).filter (·.1 = key) = [(key, value)] := by
  rw [filter_setPairs_of_kept _ key value pairs (by simp)]
  obtain ⟨name, alone⟩ := (setPairs_eq_singleton_iff key value (pairs.filter (·.1 = key))).mpr
    fun pair inside => by simpa using (List.mem_filter.mp inside).2
  have isSet := mem_setPairs key value (pairs.filter (·.1 = key))
  rw [alone, List.mem_singleton] at isSet
  rw [alone, isSet]

theorem getAll_set (changed value : String) :
    (dict.set changed value).getAll key =
      if key = changed then [value] else dict.getAll key := by
  simp only [getAll, set]
  split
  case isTrue same => rw [same, filter_setPairs_eq_singleton, List.map_singleton]
  case isFalse other =>
    rw [filter_setPairs_of_notKept _ changed value dict.pairs (by simp [Ne.symm other])]

end Lists

/-- A change does to the lists of values what it does to the pairs, and answers the same. -/
theorem onLists_getAll (dict : Multidict) (update : Update) :
    update.onLists dict.getAll = ((update.apply dict).1, (update.apply dict).2.getAll) := by
  cases update with
  | add changed value =>
    refine Prod.ext rfl (funext fun key => ?_)
    simp only [Update.onLists, Update.apply, getAll_add, Function.update_apply]
    by_cases same : key = changed <;> simp [same]
  | set changed value =>
    refine Prod.ext rfl (funext fun key => ?_)
    simp only [Update.onLists, Update.apply, getAll_set, Function.update_apply]
  | remove removed =>
    rw [apply_remove]
    refine Prod.ext rfl (funext fun key => ?_)
    simp only [Update.onLists, getAll_erase, Function.update_apply]
  | removeName name => exact Prod.ext rfl (funext fun key => (getAll_eraseName dict key name).symm)
  | extend pairs =>
    refine Prod.ext rfl ?_
    simp only [Update.onLists, Update.apply]
    induction pairs generalizing dict with
    | nil => simp [extend]
    | cons pair rest inductionHypothesis =>
      have longer : Function.update dict.getAll pair.1 (dict.getAll pair.1 ++ [pair.2]) =
          (dict.add pair.1 pair.2).getAll := by
        funext key
        rw [getAll_add, Function.update_apply]
        split
        case isTrue same => rw [same]
        case isFalse => rfl
      rw [List.foldl_cons, longer, inductionHypothesis]
      simp [extend, add]

/-- A run of changes does to the lists of values what it does to the pairs, and answers the same. -/
theorem run_onLists (dict : Multidict) (updates : List Update) :
    Update.run Update.onLists dict.getAll updates =
      ((Update.run Update.apply dict updates).1, (dict.updated updates).getAll) := by
  induction updates generalizing dict with
  | nil => rfl
  | cons update rest inductionHypothesis =>
    simp only [Update.run, onLists_getAll, inductionHypothesis, updated_cons]

/-- What the readers of a multidict say when each key has the given values. -/
structure Reports (dict : Multidict) (lists : String → List String) : Prop where
  getAll : ∀ key, dict.getAll key = lists key
  get? : ∀ key, dict.get? key = (lists key).head?
  contains : ∀ key, dict.contains key = true ↔ lists key ≠ []
  size : ∃ keys : Finset String, (∀ key, key ∈ keys ↔ lists key ≠ []) ∧
    dict.size = ∑ key ∈ keys, (lists key).length
  isEmpty : dict.isEmpty = true ↔ ∀ key, lists key = []

/-- A key has values exactly when a pair has the key. -/
theorem getAll_ne_nil_iff (dict : Multidict) (key : String) :
    dict.getAll key ≠ [] ↔ ∃ pair ∈ dict.pairs, pair.1 = key := by
  simp [getAll, List.map_eq_nil_iff, List.filter_eq_nil_iff]

/-- The readers report the lists of values. -/
theorem reports_getAll (dict : Multidict) : Reports dict dict.getAll where
  getAll _ := rfl
  get? key := by
    rw [getAll, List.head?_map, List.head?_filter]
    rfl
  contains key := by
    rw [getAll_ne_nil_iff]
    simp [contains]
  size := by
    refine ⟨(dict.pairs.map (·.1)).toFinset, fun key => ?_, ?_⟩
    · rw [getAll_ne_nil_iff]
      simp
    · have counted (key : String) : (dict.getAll key).length = (dict.pairs.map (·.1)).count key := by
        rw [getAll, List.length_map, List.count, List.countP_map, List.countP_eq_length_filter]
        rfl
      calc dict.size = (dict.pairs.map (·.1)).length := by rw [List.length_map, size]
        _ = ∑ key ∈ (dict.pairs.map (·.1)).toFinset, (dict.pairs.map (·.1)).count key :=
            (List.sum_toFinset_count_eq_length _).symm
        _ = ∑ key ∈ (dict.pairs.map (·.1)).toFinset, (dict.getAll key).length :=
            Finset.sum_congr rfl fun key _ => (counted key).symm
  isEmpty := by
    rw [isEmpty, List.isEmpty_iff]
    constructor
    · intro none key
      simp [getAll, none]
    · intro each
      rw [List.eq_nil_iff_forall_not_mem]
      intro pair inside
      exact (getAll_ne_nil_iff dict pair.1).mpr ⟨pair, inside, rfl⟩ (each pair.1)

/-- A change keeps the pairs of every key that it is not about, in their order. -/
theorem filter_untouched_apply (dict : Multidict) (update : Update) :
    (update.apply dict).2.pairs.filter (fun pair => !update.touches pair.1) =
      dict.pairs.filter (fun pair => !update.touches pair.1) := by
  cases update with
  | add changed value => simp [Update.apply, Update.touches, add]
  | set changed value =>
    exact filter_setPairs_of_notKept _ changed value dict.pairs (by simp [Update.touches])
  | remove removed => simp [apply_remove, Update.touches, erase, List.filter_filter]
  | removeName name => simp [Update.apply, Update.touches, eraseName, List.filter_filter]
  | extend pairs =>
    have none : pairs.filter (fun pair => !Update.touches pair.1 (.extend pairs)) = [] := by
      rw [List.filter_eq_nil_iff]
      intro pair inside
      simpa [Update.touches] using ⟨pair.2, inside⟩
    simp only [Update.apply, extend, List.filter_append, none, List.append_nil]

/-- A value stands where the first pair of its key stood and the other pairs of the key are gone, or
it stands at the end when no pair had the key. -/
inductive StandsInPlace (key value : String) :
    List (String × String) → List (String × String) → Prop
  | first (front back : List (String × String)) (old : String)
      (others : ∀ pair ∈ front, pair.1 ≠ key) :
      StandsInPlace key value (front ++ (key, old) :: back)
        (front ++ (key, value) :: back.filter (·.1 ≠ key))
  | last (pairs : List (String × String)) (others : ∀ pair ∈ pairs, pair.1 ≠ key) :
      StandsInPlace key value pairs (pairs ++ [(key, value)])

/-- A value that is set takes the place of the first one of its key. -/
theorem standsInPlace_setPairs (key value : String) (pairs : List (String × String)) :
    StandsInPlace key value pairs (setPairs key value pairs) := by
  induction pairs with
  | nil => exact .last [] (by simp)
  | cons pair rest inductionHypothesis =>
    by_cases isKey : pair.1 = key
    · have same : pair = (key, pair.2) := by rw [← isKey]
      rw [setPairs, if_pos isKey, same]
      exact .first [] rest pair.2 (by simp)
    · rw [setPairs, if_neg isKey]
      generalize setPairs key value rest = after at inductionHypothesis
      cases inductionHypothesis with
      | first front back old others =>
        exact .first (pair :: front) back old (List.forall_mem_cons.mpr ⟨isKey, others⟩)
      | last _ others => exact .last (pair :: rest) (List.forall_mem_cons.mpr ⟨isKey, others⟩)

/-- Of two values that are set one after the other the last one stays. -/
theorem setPairs_setPairs (key first last : String) (pairs : List (String × String)) :
    setPairs key last (setPairs key first pairs) = setPairs key last pairs := by
  induction pairs with
  | nil => simp [setPairs]
  | cons pair rest inductionHypothesis =>
    by_cases isKey : pair.1 = key
    · simp [setPairs, isKey, List.filter_filter]
    · simp only [setPairs, if_neg isKey, inductionHypothesis]

/-- Where a key is there, values of two keys can be set in either order. -/
theorem setPairs_comm (key value other changed : String) (pairs : List (String × String))
    (apart : key ≠ other) (inside : ∃ pair ∈ pairs, pair.1 = key) :
    setPairs key value (setPairs other changed pairs) =
      setPairs other changed (setPairs key value pairs) := by
  induction pairs with
  | nil => simp at inside
  | cons pair rest inductionHypothesis =>
    by_cases isKey : pair.1 = key
    · have notOther : pair.1 ≠ other := fun isOther => apart (isKey.symm.trans isOther)
      simp only [setPairs, if_pos isKey, if_neg notOther, if_neg apart]
      rw [filter_setPairs_of_kept _ other changed rest (by simp [apart.symm])]
    · have later : ∃ pair ∈ rest, pair.1 = key := by simpa [isKey] using inside
      by_cases isOther : pair.1 = other
      · simp only [setPairs, if_neg isKey, if_pos isOther, if_neg apart.symm]
        rw [filter_setPairs_of_kept _ key value rest (by simp [apart])]
      · simp only [setPairs, if_neg isKey, if_neg isOther, inductionHypothesis later]

/-- Where a key is there, setting its value leaves pairs of other keys behind it alone. -/
theorem setPairs_append (key value : String) (pairs more : List (String × String))
    (inside : ∃ pair ∈ pairs, pair.1 = key) (others : ∀ pair ∈ more, pair.1 ≠ key) :
    setPairs key value (pairs ++ more) = setPairs key value pairs ++ more := by
  induction pairs with
  | nil => simp at inside
  | cons pair rest inductionHypothesis =>
    rw [List.cons_append]
    by_cases isKey : pair.1 = key
    · have kept : (more.filter fun other => decide (other.1 ≠ key)) = more :=
        List.filter_eq_self.mpr fun other behind => by simpa using others other behind
      rw [setPairs, if_pos isKey, setPairs, if_pos isKey, List.filter_append, kept,
        List.cons_append]
    · have later : ∃ pair ∈ rest, pair.1 = key := by simpa [isKey] using inside
      rw [setPairs, if_neg isKey, setPairs, if_neg isKey, inductionHypothesis later,
        List.cons_append]

/-- Where a key is there, a change that is not about it can be made before or after its value is
set. -/
theorem set_apply_of_untouched (dict : Multidict) (key value : String) (update : Update)
    (inside : ∃ pair ∈ dict.pairs, pair.1 = key) (untouched : update.touches key = false) :
    (update.apply dict).2.set key value = (update.apply (dict.set key value)).2 := by
  cases update with
  | add changed added =>
    have apart : changed ≠ key := by simpa [Update.touches, eq_comm] using untouched
    exact congrArg Multidict.mk (setPairs_append key value dict.pairs [(changed, added)] inside
      (by simpa using apart))
  | set changed other =>
    have apart : key ≠ changed := by simpa [Update.touches] using untouched
    exact congrArg Multidict.mk (setPairs_comm key value changed other dict.pairs apart inside)
  | remove removed =>
    have apart : key ≠ removed := by simpa [Update.touches] using untouched
    rw [apply_remove, apply_remove]
    exact congrArg Multidict.mk (filter_setPairs_of_kept _ key value dict.pairs
      (by simpa using apart)).symm
  | removeName name =>
    have apart : Ascii.sameName key name = false := by simpa [Update.touches] using untouched
    exact congrArg Multidict.mk (filter_setPairs_of_kept _ key value dict.pairs
      (by simpa using apart)).symm
  | extend pairs =>
    have apart : ∀ pair ∈ pairs, pair.1 ≠ key := by
      intro pair more isKey
      have touched : Update.touches key (.extend pairs) = true :=
        List.any_eq_true.mpr ⟨pair, more, by simp [isKey]⟩
      exact absurd (touched.symm.trans untouched) (by simp)
    exact congrArg Multidict.mk (setPairs_append key value dict.pairs pairs inside apart)

/-- A change keeps the values of a key that it is not about. -/
theorem getAll_apply_of_untouched (dict : Multidict) (key : String) (update : Update)
    (untouched : update.touches key = false) :
    (update.apply dict).2.getAll key = dict.getAll key := by
  have kept (other : Multidict) : other.getAll key =
      (⟨other.pairs.filter fun pair => !update.touches pair.1⟩ : Multidict).getAll key := by
    rw [getAll_filter other key fun name => !update.touches name, untouched]
    rfl
  rw [kept, filter_untouched_apply, ← kept]

/-- Where a key is there, changes that are not about it can be made before or after its value is
set. -/
theorem set_updated_of_untouched (dict : Multidict) (key value : String) (updates : List Update)
    (inside : ∃ pair ∈ dict.pairs, pair.1 = key)
    (untouched : ∀ update ∈ updates, update.touches key = false) :
    (dict.updated updates).set key value = (dict.set key value).updated updates := by
  induction updates generalizing dict with
  | nil => rfl
  | cons update rest inductionHypothesis =>
    obtain ⟨now, later⟩ := List.forall_mem_cons.mp untouched
    have stays : ∃ pair ∈ (update.apply dict).2.pairs, pair.1 = key := by
      rw [← getAll_ne_nil_iff, getAll_apply_of_untouched dict key update now, getAll_ne_nil_iff]
      exact inside
    rw [updated_cons, updated_cons, inductionHypothesis _ stays later,
      set_apply_of_untouched dict key value update inside now]

/-- A later value of a key overrides an earlier one without moving it. -/
theorem set_updated_set (dict : Multidict) (key first last : String) (between : List Update)
    (untouched : ∀ update ∈ between, update.touches key = false) :
    ((dict.set key first).updated between).set key last =
      (dict.set key last).updated between := by
  rw [set_updated_of_untouched (dict.set key first) key last between
    ⟨_, mem_setPairs key first dict.pairs, rfl⟩ untouched]
  exact congrArg (updated · between) (congrArg Multidict.mk (setPairs_setPairs ..))

/-- This function overwrites the first value of a key at its position, and then walks over the pairs
with a count: up to the position it keeps every pair, behind it those of other keys. -/
def overwritePairs (key value : String) (pairs : List (String × String)) :
    List (String × String) :=
  match pairs.findIdx? (·.1 = key) with
  | none => pairs ++ [(key, value)]
  | some first =>
    ((pairs.set first (key, value)).zipIdx.filter fun entry =>
      entry.2 ≤ first || entry.1.1 ≠ key).map (·.1)

/-- Setting a value by position and count puts it in its place. -/
theorem overwritePairs_of_standsInPlace (key value : String) (pairs after : List (String × String))
    (stands : StandsInPlace key value pairs after) :
    overwritePairs key value pairs = after := by
  cases stands with
  | last _ others =>
    have absent : pairs.findIdx? (fun pair => decide (pair.1 = key)) = none := by
      rw [List.findIdx?_eq_none_iff]
      simpa using others
    rw [overwritePairs, absent]
  | first front back old others =>
    have position : (front ++ (key, old) :: back).findIdx? (fun pair => decide (pair.1 = key)) =
        some front.length := by
      have absent : front.findIdx? (fun pair => decide (pair.1 = key)) = none := by
        rw [List.findIdx?_eq_none_iff]
        simpa using others
      rw [List.findIdx?_append, absent, List.findIdx?_cons]
      simp
    have upTo : ((front ++ [(key, value)]).zipIdx.filter fun entry =>
        entry.2 ≤ front.length || entry.1.1 ≠ key) = (front ++ [(key, value)]).zipIdx := by
      rw [List.filter_eq_self]
      intro entry inside
      have bound := List.snd_lt_of_mem_zipIdx inside
      rw [List.length_append, List.length_singleton] at bound
      simp [show entry.2 ≤ front.length by omega]
    have behind : ((back.zipIdx (front.length + 1)).filter fun entry =>
        entry.2 ≤ front.length || entry.1.1 ≠ key).map (·.1) =
          back.filter (·.1 ≠ key) := by
      conv_rhs => rw [← List.zipIdx_map_fst (front.length + 1) back, List.filter_map]
      congr 1
      apply List.filter_congr
      intro entry inside
      have bound := List.le_snd_of_mem_zipIdx inside
      simp [show ¬ entry.2 ≤ front.length by omega]
    have written : (front ++ (key, old) :: back).set front.length (key, value) =
        (front ++ [(key, value)]) ++ back := by simp
    have behindAt : 0 + (front ++ [(key, value)]).length = front.length + 1 := by simp
    simp only [overwritePairs, position]
    rw [written, List.zipIdx_append, List.filter_append, List.map_append, upTo, behindAt, behind,
      List.zipIdx_map_fst, List.append_assoc, List.singleton_append]

/-- Setting a value by position and count is setting it. -/
theorem overwritePairs_eq (key value : String) (pairs : List (String × String)) :
    overwritePairs key value pairs = setPairs key value pairs :=
  overwritePairs_of_standsInPlace key value pairs _ (standsInPlace_setPairs key value pairs)

/-- For every multidict and all changes to it, the answers are those that the lists of values give, and
the readers report these lists afterwards.  A further change keeps the pairs of every key that it is not
about, in their order.  A further value of a key stands where the first one stood, or at the end, which
is where overwriting by position and count puts it; setting it twice is setting it once; and it overrides
a value that was set before without moving it, whatever was changed about other keys in between. -/
theorem updated_follows_lists (dict : Multidict) (updates : List Update) :
    let after := dict.updated updates
    let followed := Update.run Update.onLists dict.getAll updates
    (Update.run Update.apply dict updates).1 = followed.1 ∧
      Reports after followed.2 ∧
      (∀ update : Update,
        (update.apply after).2.pairs.filter (fun pair => !update.touches pair.1) =
          after.pairs.filter (fun pair => !update.touches pair.1)) ∧
      (∀ key value, StandsInPlace key value after.pairs (after.set key value).pairs ∧
        overwritePairs key value after.pairs = (after.set key value).pairs) ∧
      (∀ key value, (after.set key value).set key value = after.set key value) ∧
      ∀ (key first last : String) (between : List Update),
        (∀ update ∈ between, update.touches key = false) →
          ((after.set key first).updated between).set key last =
            (after.set key last).updated between := by
  intro after followed
  have agree : followed = ((Update.run Update.apply dict updates).1, after.getAll) :=
    run_onLists dict updates
  refine ⟨by rw [agree], ?_, filter_untouched_apply after,
    fun key value => ⟨standsInPlace_setPairs key value after.pairs,
      overwritePairs_eq key value after.pairs⟩,
    fun key value => congrArg Multidict.mk (setPairs_setPairs key value value after.pairs),
    fun key first last between => set_updated_set after key first last between⟩
  rw [agree]
  exact reports_getAll after

/-- A repeated key is set among others: the last value stands where the first pair was. -/
theorem updated_follows_lists_repeated :
    let dict : Multidict := ⟨[("b", "1"), ("a", "2"), ("A", "3"), ("b", "4"), ("a", "5")]⟩
    let between : List Update := [.add "b" "6", .removeName "B", .extend [("c", "7"), ("A", "8")]]
    (∀ update ∈ between, update.touches "a" = false) ∧
      ((dict.set "a" "first").updated between).set "a" "last" =
        ⟨[("a", "last"), ("A", "3"), ("c", "7"), ("A", "8")]⟩ := by
  intro dict between
  have untouched : ∀ update ∈ between, update.touches "a" = false := by decide
  refine ⟨untouched, ?_⟩
  rw [show dict.set "a" "first" = (dict.updated []).set "a" "first" from rfl,
    (updated_follows_lists dict []).2.2.2.2.2 "a" "first" "last" between untouched]
  decide

end ConfinedHttp.Multidict
