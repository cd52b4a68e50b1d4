import ConfinedHttp.Capability
import ConfinedHttp.Proofs.Json.MemberLookup
import Mathlib.Logic.Relation

/-!
Sets of capabilities know their members by identifier.  A set is built as an object is built from
entries whose keys are the identifiers, so the laws of objects hold for it.
-/

namespace ConfinedHttp

open Json (Increasing insertMember members)

namespace Capability

theorem order_eq (left right : Capability) :
    left.order right =
      if left.identifier = right.identifier then .eq
      else if precedes left.identifier right.identifier = true then .lt else .gt := by
  simp only [order, same, beq_iff_eq]

/-- Capabilities as entries under their identifiers. -/
def keyed (capabilities : List Capability) : List (String × Capability) :=
  capabilities.map fun capability => (capability.identifier, capability)

def identifiers (capabilities : List Capability) : List String :=
  capabilities.map (·.identifier)

@[simp] theorem keyed_cons (first : Capability) (rest : List Capability) :
    keyed (first :: rest) = (first.identifier, first) :: keyed rest := rfl

theorem keys_keyed (capabilities : List Capability) :
    (keyed capabilities).map (·.1) = identifiers capabilities := by
  rw [keyed, List.map_map]
  rfl

theorem lookup_keyed (identifier : String) (capabilities : List Capability) :
    (keyed capabilities).lookup identifier =
      capabilities.find? (·.identifier == identifier) := by
  induction capabilities with
  | nil => rfl
  | cons first rest inductionHypothesis =>
    rw [keyed_cons, Json.lookup_cons, List.find?_cons, ← inductionHypothesis]
    by_cases isFirst : identifier = first.identifier
    · simp [isFirst]
    · simp [isFirst, beq_false_of_ne (Ne.symm isFirst)]

theorem isSome_find?_iff (identifier : String) (capabilities : List Capability) :
    (capabilities.find? (·.identifier == identifier)).isSome = true ↔
      identifier ∈ identifiers capabilities := by
  simp [identifiers, List.find?_isSome]

/-- One declaration of capabilities says the same about identifiers as another one that lists them in
another order, lists one of them once more, or gives one of them other texts. -/
inductive Redeclares : List Capability → List Capability → Prop
  | permute {first second : List Capability} (moved : first.Perm second) : Redeclares first second
  | again {declared : List Capability} {capability : Capability} (inside : capability ∈ declared) :
    Redeclares declared (capability :: declared)
  | relabel (front back : List Capability) (identifier label description otherLabel
    otherDescription : String) :
    Redeclares (front ++ ⟨identifier, label, description⟩ :: back)
      (front ++ ⟨identifier, otherLabel, otherDescription⟩ :: back)

/-- Such declarations name the same identifiers. -/
theorem mem_identifiers_of_redeclares {declared others : List Capability}
    (changed : Relation.EqvGen Redeclares declared others) (identifier : String) :
    identifier ∈ identifiers declared ↔ identifier ∈ identifiers others := by
  induction changed with
  | rel first second step =>
    cases step with
    | permute moved => exact (moved.map _).mem_iff
    | again inside =>
      have held := List.mem_map_of_mem (f := (·.identifier)) inside
      rw [identifiers, identifiers, List.map_cons, List.mem_cons]
      exact ⟨.inr, fun either => either.elim (fun same => same ▸ held) id⟩
    | relabel => simp [identifiers]
  | refl => exact Iff.rfl
  | symm _ _ _ inductionHypothesis => exact inductionHypothesis.symm
  | trans _ _ _ _ _ first second => exact first.trans second

end Capability

namespace CapabilitySet

open Capability

/-- This function looks for a capability among ascending members.  It stops at the first one behind
its place. -/
def search (capability : Capability) : List Capability → Bool
  | [] => false
  | next :: rest =>
    match capability.order next with
    | .eq => true
    | .lt => false
    | .gt => search capability rest

section Building

theorem insert_cons (capability next : Capability) (rest : List Capability) :
    insert capability (next :: rest) =
      if capability.identifier = next.identifier then capability :: rest
      else if precedes capability.identifier next.identifier = true then capability :: next :: rest
      else next :: insert capability rest := by
  rw [insert, order_eq]
  split_ifs <;> rfl

/-- Putting a capability in its place is putting a member into an object. -/
theorem keyed_insert (capability : Capability) (held : List Capability) :
    keyed (insert capability held) =
      insertMember capability.identifier capability (keyed held) := by
  induction held with
  | nil => rfl
  | cons next rest inductionHypothesis =>
    rw [insert_cons, keyed_cons, insertMember, ← inductionHypothesis]
    split_ifs <;> rfl

theorem keyed_ofDeclared (declared : List Capability) :
    keyed (ofDeclared declared).members = Json.members (keyed declared) := by
  have gather (held : List Capability) :
      keyed (declared.foldl (fun members capability => insert capability members) held) =
        (keyed declared).foldl (fun gathered entry => insertMember entry.1 entry.2 gathered)
          (keyed held) := by
    induction declared generalizing held with
    | nil => rfl
    | cons capability rest inductionHypothesis =>
      rw [List.foldl_cons, inductionHypothesis, keyed_insert]
      rfl
  exact gather []

/-- The members stand in the order of their identifiers. -/
theorem increasing_ofDeclared (declared : List Capability) :
    Increasing (keyed (ofDeclared declared).members) := by
  rw [keyed_ofDeclared]
  exact Json.increasing_members _

/-- Of equal identifiers the last one declared is found. -/
theorem get?_ofDeclared (declared : List Capability) (identifier : String) :
    (ofDeclared declared).get? identifier =
      declared.reverse.find? (·.identifier == identifier) := by
  rw [get?, ← lookup_keyed, keyed_ofDeclared, Json.lookup_members, keyed, ← List.map_reverse,
    ← keyed, lookup_keyed]

theorem mem_identifiers_ofDeclared (declared : List Capability) (identifier : String) :
    identifier ∈ identifiers (ofDeclared declared).members ↔
      identifier ∈ identifiers declared := by
  have found := get?_ofDeclared declared identifier
  rw [get?] at found
  rw [← isSome_find?_iff, found, isSome_find?_iff, identifiers, List.map_reverse,
    List.mem_reverse, identifiers]

theorem pairwise_ofDeclared (declared : List Capability) :
    (identifiers (ofDeclared declared).members).Pairwise fun first later =>
      precedes first later = true := by
  rw [← keys_keyed]
  exact List.pairwise_map.mpr (increasing_ofDeclared declared)

/-- Each member is found under its identifier, so it is the last one declared with it. -/
theorem exists_last_of_mem (declared : List Capability) (member : Capability)
    (inside : member ∈ (ofDeclared declared).members) :
    ∃ before after, declared = before ++ member :: after ∧
      ∀ later ∈ after, later.identifier ≠ member.identifier := by
  have increasing := increasing_ofDeclared declared
  have entry : (member.identifier, member) ∈ keyed (ofDeclared declared).members :=
    List.mem_map_of_mem inside
  have found := (Json.lookup_eq_some_iff_mem increasing.nodup_keys _ _).mpr entry
  rw [lookup_keyed, ← get?, get?_ofDeclared] at found
  obtain ⟨-, after, before, reversed, none⟩ := List.find?_eq_some_iff_append.mp found
  refine ⟨before.reverse, after.reverse, ?_, fun later isLater => ?_⟩
  · simpa using congrArg List.reverse reversed
  · simpa using none later (List.mem_reverse.mp isLater)

end Building

section Comparing

/-- Among ascending members the search that stops early misses none. -/
theorem search_eq_any (capability : Capability) (held : List Capability)
    (increasing : Increasing (keyed held)) : search capability held = held.any capability.same := by
  induction held with
  | nil => rfl
  | cons next rest inductionHypothesis =>
    obtain ⟨first, others⟩ := List.pairwise_cons.mp increasing
    rw [search, order_eq, List.any_cons, ← inductionHypothesis others, Capability.same]
    split_ifs with same before
    · simp [same]
    · -- The members behind the next one come after the capability as well.
      have none : rest.any capability.same = false := by
        rw [List.any_eq_false]
        intro later isLater
        have behind := first _ (List.mem_map_of_mem isLater)
        simpa [Capability.same] using ne_of_precedes (precedes_trans before behind)
      simp [same, inductionHypothesis others, none]
    · simp [same]

theorem contains_iff (set : CapabilitySet) (capability : Capability) :
    set.contains capability = true ↔ capability.identifier ∈ identifiers set.members := by
  simp only [contains, Capability.same, identifiers, List.any_eq_true, beq_iff_eq, List.mem_map]
  exact exists_congr fun _ => and_congr_right fun _ => eq_comm

theorem same_iff (left right : CapabilitySet) :
    left.same right = true ↔ identifiers left.members = identifiers right.members :=
  beq_iff_eq

/-- Two declarations lead to the same set exactly when they name the same identifiers. -/
theorem identifiers_ofDeclared_eq_iff (declared others : List Capability) :
    identifiers (ofDeclared declared).members = identifiers (ofDeclared others).members ↔
      ∀ identifier, identifier ∈ identifiers declared ↔ identifier ∈ identifiers others := by
  have named : (∀ identifier, identifier ∈ identifiers declared ↔ identifier ∈ identifiers others) ↔
      ∀ identifier, identifier ∈ identifiers (ofDeclared declared).members ↔
        identifier ∈ identifiers (ofDeclared others).members :=
    forall_congr' fun _ => Iff.symm (iff_congr (mem_identifiers_ofDeclared declared _)
      (mem_identifiers_ofDeclared others _))
  rw [named]
  constructor
  · intro equal identifier
    rw [equal]
  · intro same
    have left := pairwise_ofDeclared declared
    have right := pairwise_ofDeclared others
    have moved := (List.perm_ext_iff_of_nodup (left.imp ne_of_precedes)
      (right.imp ne_of_precedes)).mpr same
    refine moved.eq_of_pairwise (fun first second _ _ before after => ?_) left right
    rw [precedes_asymm before] at after
    cases after

end Comparing

/-- A set holds its members in the order of the bytes of their identifiers, exactly those identifiers
that are declared, and each of them as it was declared last.  A capability is found under its
identifier exactly when one with this identifier is declared, whatever its other texts are.  Sets are
the same exactly when the same identifiers are declared.  So it does not matter in which order they
are declared, how often, and with which texts. -/
theorem ofDeclared_by_identifier (declared : List Capability) :
    let set := ofDeclared declared
    ((identifiers set.members).Pairwise fun first later => textBytes first < textBytes later) ∧
    (∀ identifier, identifier ∈ identifiers set.members ↔ identifier ∈ identifiers declared) ∧
    (∀ member ∈ set.members, ∃ before after, declared = before ++ member :: after ∧
      ∀ later ∈ after, later.identifier ≠ member.identifier) ∧
    (∀ identifier label description,
      ((set.get? identifier).isSome = true ↔ identifier ∈ identifiers declared) ∧
      (set.contains ⟨identifier, label, description⟩ = true ↔ identifier ∈ identifiers declared) ∧
      search ⟨identifier, label, description⟩ set.members =
        set.contains ⟨identifier, label, description⟩) ∧
    ∀ others,
      (set.same (ofDeclared others) = true ↔
        ∀ identifier, identifier ∈ identifiers declared ↔ identifier ∈ identifiers others) ∧
      (Relation.EqvGen Redeclares declared others →
        set.same (ofDeclared others) = true ∧
        (∀ third, set.same third = (ofDeclared others).same third) ∧
        set.size = (ofDeclared others).size ∧
        ∀ capability, set.contains capability = (ofDeclared others).contains capability) := by
  intro set
  have named := mem_identifiers_ofDeclared declared
  refine ⟨(pairwise_ofDeclared declared).imp (precedes_iff _ _).mp, named,
    exists_last_of_mem declared, fun identifier label description => ⟨?found, ?held, ?searched⟩,
    fun others => ⟨?same, fun changed => ?kept⟩⟩
  case found => rw [get?, isSome_find?_iff, named]
  case held => rw [contains_iff, named]
  case searched => exact search_eq_any _ _ (increasing_ofDeclared declared)
  case same => rw [same_iff, identifiers_ofDeclared_eq_iff]
  case kept =>
    have equal := (identifiers_ofDeclared_eq_iff declared others).mpr
      (mem_identifiers_of_redeclares changed)
    refine ⟨(same_iff _ _).mpr equal, fun third => ?_, ?_, fun capability => ?_⟩
    · rw [Bool.eq_iff_iff, same_iff, same_iff, equal]
    · simpa [identifiers, size] using congrArg List.length equal
    · rw [Bool.eq_iff_iff, contains_iff, contains_iff, equal]

/-- A declaration in another order, with one capability once more and another one with other texts. -/
theorem ofDeclared_by_identifier_again :
    let declared : List Capability := [⟨"b", "B", ""⟩, ⟨"a", "1", ""⟩, ⟨"a", "2", ""⟩]
    let others : List Capability :=
      [⟨"a", "2", ""⟩, ⟨"a", "2", ""⟩, ⟨"a", "1", ""⟩, ⟨"b", "other", "text"⟩]
    Relation.EqvGen Redeclares declared others ∧
      (ofDeclared declared).same (ofDeclared others) = true ∧
      (ofDeclared declared).contains ⟨"a", "", ""⟩ = true ∧
      ⟨"a", "2", ""⟩ ∈ (ofDeclared declared).members ∧
      ∃ before after, declared = before ++ ⟨"a", "2", ""⟩ :: after ∧
        ∀ later ∈ after, later.identifier ≠ "a" := by
  intro declared others
  have changed : Relation.EqvGen Redeclares declared others :=
    .trans _ _ _ (.rel _ _ (.relabel [] _ "b" "B" "" "other" "text"))
      (.trans _ _ _ (.rel _ _ (@Redeclares.again _ ⟨"a", "2", ""⟩ (by decide)))
        (.rel _ _ (.permute (by decide))))
  obtain ⟨-, -, last, found, compared⟩ := ofDeclared_by_identifier declared
  have inside : (⟨"a", "2", ""⟩ : Capability) ∈ (ofDeclared declared).members := by decide
  exact ⟨changed, ((compared others).2 changed).1, (found "a" "" "").2.1.mpr (by decide), inside,
    last _ inside⟩

/-- A capability that was declared first does not stay. -/
theorem not_ofDeclared_first :
    ¬ ∀ declared, ∀ member ∈ (ofDeclared declared).members,
      ∃ before after, declared = before ++ member :: after ∧
        ∀ earlier ∈ before, earlier.identifier ≠ member.identifier := by
  intro first
  obtain ⟨before, after, whole, none⟩ := first [⟨"a", "1", ""⟩, ⟨"a", "2", ""⟩] ⟨"a", "2", ""⟩
    (by decide)
  cases before with
  | nil => simp at whole
  | cons earlier rest =>
    obtain ⟨rfl, -⟩ := List.cons.inj whole
    exact none _ List.mem_cons_self rfl

end CapabilitySet

end ConfinedHttp
