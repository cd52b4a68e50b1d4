import ConfinedHttp.Proofs.Oauth.PayloadParts

namespace ConfinedHttp

/-- An era of four hundred years starts in March.  Only its first ten months belong to the year in
which it starts, and only its last two to the year in which it ends. -/
theorem Date.year_of_era (inEra : Nat) (small : inEra < 146097) :
    let yearOfEra := (inEra - inEra / 1460 + inEra / 36524 - inEra / 146096) / 365
    let dayOfYear := inEra - (365 * yearOfEra + yearOfEra / 4 - yearOfEra / 100)
    let monthFromMarch := (5 * dayOfYear + 2) / 153
    let month := if monthFromMarch < 10 then monthFromMarch + 3 else monthFromMarch - 9
    let year := yearOfEra + if month ≤ 2 then 1 else 0
    year ≤ 400 ∧ (year = 0 ↔ inEra < 306) ∧ (year = 400 ↔ 146036 < inEra) := by
  intro yearOfEra dayOfYear monthFromMarch month year
  have whole : yearOfEra ≤ 399 := by
    simp only [yearOfEra]
    omega
  have first : yearOfEra = 0 ↔ inEra < 365 := by
    simp only [yearOfEra]
    omega
  have last : yearOfEra = 399 ↔ 145731 ≤ inEra := by
    simp only [yearOfEra]
    omega
  have day : dayOfYear ≤ 366 := by
    simp only [dayOfYear, yearOfEra]
    omega
  have inJanuary : month ≤ 2 ↔ 306 ≤ dayOfYear := by
    simp only [month, monthFromMarch]
    split <;> omega
  simp only [year, inJanuary]
  simp only [dayOfYear] at *
  split <;> omega

/-- The year of a day, by its era. -/
theorem Date.exists_year_ofDays (days : Int) :
    ∃ year : Nat, (Date.ofDays days).year = year + (days + 719468) / 146097 * 400 ∧ year ≤ 400 ∧
      (year = 0 ↔ (days + 719468) % 146097 < 306) ∧
      (year = 400 ↔ 146036 < (days + 719468) % 146097) := by
  have era : (days + 719468).fdiv 146097 = (days + 719468) / 146097 :=
    Int.fdiv_eq_ediv_of_nonneg _ (by decide)
  have inEra : (days + 719468).fmod 146097 = (days + 719468) % 146097 :=
    Int.fmod_eq_emod_of_nonneg _ (by decide)
  have positive := Int.emod_nonneg (days + 719468) (b := 146097) (by decide)
  have below := Int.emod_lt_of_pos (days + 719468) (b := 146097) (by decide)
  have spec := Date.year_of_era ((days + 719468) % 146097).toNat (by omega)
  simp only [Date.ofDays, era, inEra]
  refine ⟨_, ?_, spec.1, ?_, ?_⟩
  · push_cast
    omega
  · rw [spec.2.1]
    omega
  · rw [spec.2.2]
    omega

/-- The first day is the first of January of the year -9999, and the last one is the last of
December of the year 9999. -/
theorem Instant.isRepresentable_iff (instant : Instant) :
    instant.isRepresentable = true ↔ -9999 ≤ instant.date.year ∧ instant.date.year ≤ 9999 := by
  obtain ⟨year, equal, bounded, first, last⟩ :=
    Date.exists_year_ofDays (instant.localSeconds.fdiv 86400)
  have days : instant.isRepresentable = true ↔
      firstDay ≤ instant.localSeconds.fdiv 86400 ∧ instant.localSeconds.fdiv 86400 ≤ lastDay := by
    rw [isRepresentable, Bool.and_eq_true, decide_eq_true_iff, decide_eq_true_iff]
  rw [days, date, equal, firstDay, lastDay]
  omega

namespace Oauth.TokenPayload

/-- The lifetime that the members of an answer hold: the seconds of the member for it, if there is
one and it is not null. -/
def lifetime? (members : List (String × Json.Value)) : Option Int :=
  match members.lookup "expires_in" with
  | some (.number (.integer seconds)) => some seconds
  | _ => none

/-- What is read under the key of a lifetime is the lifetime, and it is an integer of 64 bits. -/
theorem optionalSeconds?_lifetime (members : List (String × Json.Value))
    (suitable : ∀ value, members.lookup "expires_in" = some value →
      (optionalSeconds? value).isSome) :
    ((members.lookup "expires_in").bind optionalSeconds?).join = lifetime? members ∧
      ∀ seconds, lifetime? members = some seconds →
        leastSeconds ≤ seconds ∧ seconds ≤ greatestSeconds := by
  rw [lifetime?]
  cases found : members.lookup "expires_in" with
  | none => exact ⟨rfl, nofun⟩
  | some value =>
    have isLifetime := suitable value found
    rw [Option.bind_some]
    cases value with
    | null => exact ⟨rfl, nofun⟩
    | number number =>
      cases number with
      | integer seconds =>
        rw [optionalSeconds?, Option.isSome_ite] at isLifetime
        rw [optionalSeconds?, if_pos isLifetime]
        refine ⟨rfl, fun other same => ?_⟩
        rw [← Option.some.inj same]
        exact isLifetime
      | real => cases isLifetime
    | _ => cases isLifetime

/-- The lifetime of a payload is the one that the answer held. -/
theorem expiresIn_of_ofJson (value : Json.Value) (payload : TokenPayload)
    (read : ofJson value = .ok payload) :
    ∃ members, value = .object members ∧ payload.expiresIn = lifetime? members ∧
      ∀ seconds, lifetime? members = some seconds →
        leastSeconds ≤ seconds ∧ seconds ≤ greatestSeconds := by
  cases value with
  | object members =>
    obtain ⟨each, token, -, rfl⟩ := (ofJson_object_eq_ok_iff members payload).mp read
    refine ⟨members, rfl, optionalSeconds?_lifetime members fun value found => ?_⟩
    obtain ⟨before, behind, rfl, -⟩ := List.lookup_eq_some_iff.mp found
    have isSome := each ("expires_in", value) (by simp)
    rwa [partOf?_expiresIn, Option.isSome_map] at isSome
  | _ => cases read

/-- Whatever lifetime an answer holds, a token expires at the instant that it leads to if the local
year of that instant lies between -9999 and 9999.  Without a lifetime there is no such instant.  In
every other case the calendar ends before it, and the sum is not computed. -/
theorem expiresAt_of_ofJson (value : Json.Value) (payload : TokenPayload)
    (read : ofJson value = .ok payload) (issued : Instant) :
    ∃ members, value = .object members ∧
      (lifetime? members = none → payload.expiresAt issued = none) ∧
      ∀ seconds, lifetime? members = some seconds →
        let moved : Instant := { issued with seconds := issued.seconds + seconds }
        (leastSeconds ≤ seconds ∧ seconds ≤ greatestSeconds) ∧
        (-9999 ≤ moved.date.year ∧ moved.date.year ≤ 9999 →
          payload.expiresAt issued = some (some moved)) ∧
        (¬ (-9999 ≤ moved.date.year ∧ moved.date.year ≤ 9999) →
          payload.expiresAt issued = some none) := by
  obtain ⟨members, isObject, lifetime, bounded⟩ := expiresIn_of_ofJson value payload read
  refine ⟨members, isObject, fun none => ?_, fun seconds isLifetime => ?_⟩
  · rw [expiresAt, lifetime, none]
    rfl
  · intro moved
    have sum : payload.expiresAt issued =
        some (if moved.isRepresentable then some moved else none) := by
      rw [expiresAt, lifetime, isLifetime]
      rfl
    refine ⟨bounded seconds isLifetime, fun within => ?_, fun beyond => ?_⟩
    · rw [sum, if_pos ((Instant.isRepresentable_iff moved).mpr within)]
    · rw [sum, if_neg ((Instant.isRepresentable_iff moved).not.mpr beyond)]

/-- The last second of the year 9999 in local time, one hour behind universal time. -/
theorem expiresAt_of_ofJson_last_second :
    ∃ payload, ofJson (.object [("access_token", .string "a"),
        ("expires_in", .number (.integer 253402304399))]) = .ok payload ∧
      payload.expiresAt ⟨0, 7, -3600⟩ = some (some ⟨253402304399, 7, -3600⟩) := by
  refine ⟨_, rfl, ?_⟩
  obtain ⟨members, isObject, -, each⟩ := expiresAt_of_ofJson
    (.object [("access_token", .string "a"), ("expires_in", .number (.integer 253402304399))]) _ rfl
    ⟨0, 7, -3600⟩
  obtain rfl := Json.Value.object.inj isObject
  exact (each 253402304399 rfl).2.1 (by decide)

/-- A lifetime of 64 bits that an answer may hold leads beyond the calendar, and the sum has no
result. -/
theorem not_expiresAt_beyond_calendar :
    ¬ ∀ value payload issued, ofJson value = .ok payload → issued.isRepresentable = true →
      payload.expiresAt issued ≠ some none := by
  intro safe
  exact safe (.object [("access_token", .string "a"),
    ("expires_in", .number (.integer 9223372036854775807))]) _ ⟨0, 0, 0⟩ rfl rfl rfl

end Oauth.TokenPayload

end ConfinedHttp
