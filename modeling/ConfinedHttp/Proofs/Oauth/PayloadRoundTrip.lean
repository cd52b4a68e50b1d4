import ConfinedHttp.Proofs.Oauth.PayloadParts

namespace ConfinedHttp.Oauth.TokenPayload

/-- The known members that may be missing, and those of them that hold texts. -/
def optionalKeys : List String := ["token_type", "refresh_token", "expires_in", "scope"]

def textKeys : List String := ["token_type", "refresh_token", "scope"]

/-- A value is null or a text. -/
def IsOptionalText (value : Json.Value) : Prop := value = .null ∨ ∃ text, value = .string text

/-- A value is null or an integer of 64 bits with a sign. -/
def IsOptionalSeconds (value : Json.Value) : Prop :=
  value = .null ∨ ∃ seconds : Int, value = .number (.integer seconds) ∧
    -2 ^ 63 ≤ seconds ∧ seconds < 2 ^ 63

/-- The members of an object from which a payload can be read. -/
structure Suits (members : List (String × Json.Value)) : Prop where
  accessToken : ∃ text, members.lookup "access_token" = some (.string text)
  texts : ∀ key ∈ textKeys, ∀ value, members.lookup key = some value → IsOptionalText value
  expiresIn : ∀ value, members.lookup "expires_in" = some value → IsOptionalSeconds value

/-- Members with nothing changed but that the known ones which were missing are null. -/
structure Completes (members completed : List (String × Json.Value)) : Prop where
  increasing : Json.Increasing completed
  lookup : ∀ key, completed.lookup key =
    if key ∈ optionalKeys then some ((members.lookup key).getD .null) else members.lookup key

theorem not_mem_optionalKeys {key : String} (other : key ∉ knownKeys) : key ∉ optionalKeys :=
  fun inside => other (List.mem_cons_of_mem "access_token" inside)

section Reading

variable {members : List (String × Json.Value)}

theorem isSome_optionalText?_iff (value : Json.Value) :
    (optionalText? value).isSome ↔ IsOptionalText value := by
  cases value <;> simp [optionalText?, IsOptionalText]

/-- A lifetime is an integer of 64 bits with a sign. -/
theorem seconds_bounded_iff (seconds : Int) :
    (leastSeconds ≤ seconds ∧ seconds ≤ greatestSeconds) ↔
      -2 ^ 63 ≤ seconds ∧ seconds < 2 ^ 63 := by
  rw [leastSeconds, greatestSeconds]
  omega

theorem isSome_optionalSeconds?_iff (value : Json.Value) :
    (optionalSeconds? value).isSome ↔ IsOptionalSeconds value := by
  cases value with
  | number number =>
    cases number with
    | integer seconds => simp [optionalSeconds?, IsOptionalSeconds, seconds_bounded_iff]
    | real => simp [optionalSeconds?, IsOptionalSeconds]
  | _ => simp [optionalSeconds?, IsOptionalSeconds]

/-- Texts are read alike under each of their keys. -/
theorem isSome_partOf?_text {key : String} (isText : key ∈ textKeys) (value : Json.Value) :
    (partOf? key value).isSome ↔ IsOptionalText value := by
  rw [← isSome_optionalText?_iff]
  simp only [textKeys, List.mem_cons, List.not_mem_nil, or_false] at isText
  obtain rfl | rfl | rfl := isText
  · rw [partOf?_tokenType, Option.isSome_map]
  · rw [partOf?_refreshToken, Option.isSome_map]
  · rw [partOf?_scope, Option.isSome_map]

theorem suits_iff (unique : (members.map (·.1)).Nodup) :
    Suits members ↔ (∀ member ∈ members, (partOf? member.1 member.2).isSome) ∧
      ∃ token, members.lookup "access_token" = some (.string token) := by
  constructor
  · intro suits
    refine ⟨?_, suits.accessToken⟩
    rintro ⟨key, value⟩ inside
    have found := (Json.lookup_eq_some_iff_mem unique key value).mpr inside
    by_cases isText : key ∈ textKeys
    · exact (isSome_partOf?_text isText value).mpr (suits.texts key isText value found)
    by_cases isLifetime : key = "expires_in"
    · subst isLifetime
      rw [partOf?_expiresIn, Option.isSome_map, isSome_optionalSeconds?_iff]
      exact suits.expiresIn value found
    by_cases isToken : key = "access_token"
    · subst isToken
      obtain ⟨text, isAccessToken⟩ := suits.accessToken
      obtain rfl := Option.some.inj (found.symm.trans isAccessToken)
      rfl
    · have other : key ∉ knownKeys := by
        simp only [textKeys, knownKeys, List.mem_cons, List.not_mem_nil, or_false] at isText ⊢
        tauto
      rw [partOf?_of_not_mem_knownKeys other]
      rfl
  · rintro ⟨each, token⟩
    have reads {key : String} {value : Json.Value} (found : members.lookup key = some value) :
        (partOf? key value).isSome :=
      each (key, value) ((Json.lookup_eq_some_iff_mem unique key value).mp found)
    refine ⟨token, ?_, ?_⟩
    · intro key isText value found
      exact (isSome_partOf?_text isText value).mp (reads found)
    · intro value found
      have isLifetime := reads found
      rwa [partOf?_expiresIn, Option.isSome_map, isSome_optionalSeconds?_iff] at isLifetime

/-- A payload is read from an object exactly if its members suit. -/
theorem ofJson_object_iff_suits (unique : (members.map (·.1)).Nodup) (payload : TokenPayload) :
    ofJson (.object members) = .ok payload ↔ Suits members ∧
      ∃ token, members.lookup "access_token" = some (.string token) ∧
        payload = gathered members token := by
  rw [ofJson_object_eq_ok_iff, suits_iff unique]
  constructor
  · rintro ⟨each, token, found, made⟩
    exact ⟨⟨each, token, found⟩, token, found, made⟩
  · rintro ⟨⟨each, -⟩, made⟩
    exact ⟨each, made⟩

end Reading

section Writing

variable {members completed : List (String × Json.Value)} {token : String}

/-- This function writes a lifetime that may be missing. -/
def secondsJson : Option Int → Json.Value
  | some seconds => .number (.integer seconds)
  | none => .null

/-- The members that are written for every payload. -/
def knownMembers (payload : TokenPayload) : List (String × Json.Value) :=
  [("access_token", .string payload.accessToken.expose),
    ("token_type", textJson payload.tokenType),
    ("refresh_token", textJson (payload.refreshToken.map Secret.expose)),
    ("expires_in", secondsJson payload.expiresIn),
    ("scope", textJson payload.scope)]

theorem toJson_eq (payload : TokenPayload) :
    payload.toJson = .object (payload.knownMembers ++ payload.extra) := by
  have lifetime : (match payload.expiresIn with
      | some seconds => Json.Value.number (.integer seconds)
      | none => .null) = secondsJson payload.expiresIn := by
    cases payload.expiresIn <;> rfl
  rw [knownMembers, ← lifetime]
  rfl

/-- A text that may be missing is written as it was found, or as null. -/
theorem textJson_optionalText? {found : Option Json.Value}
    (isText : ∀ value, found = some value → IsOptionalText value) :
    textJson (found.bind optionalText?).join = found.getD .null := by
  cases found with
  | none => rfl
  | some value => obtain rfl | ⟨text, rfl⟩ := isText value rfl <;> rfl

theorem secondsJson_optionalSeconds? {found : Option Json.Value}
    (isLifetime : ∀ value, found = some value → IsOptionalSeconds value) :
    secondsJson (found.bind optionalSeconds?).join = found.getD .null := by
  cases found with
  | none => rfl
  | some value =>
    obtain rfl | ⟨seconds, rfl, bounded⟩ := isLifetime value rfl
    · rfl
    · rw [Option.bind_some, optionalSeconds?, if_pos ((seconds_bounded_iff seconds).mpr bounded)]
      rfl

theorem extra_gathered (increasing : Json.Increasing members) :
    (gathered members token).extra = members.filter fun member => !knownKeys.contains member.1 :=
  Json.members_of_increasing _ (increasing.filter _)

/-- No member of a payload is kept twice. -/
theorem nodup_written (increasing : Json.Increasing members) :
    (((gathered members token).knownMembers ++ (gathered members token).extra).map
      (·.1)).Nodup := by
  rw [List.map_append, extra_gathered increasing]
  refine List.nodup_append.mpr ⟨?_, (increasing.filter _).nodup_keys, ?_⟩
  · show knownKeys.Nodup
    decide
  · rintro key known _ inside rfl
    obtain ⟨member, isExtra, rfl⟩ := List.mem_map.mp inside
    have isKnown : member.1 ∈ knownKeys := known
    simpa [isKnown] using (List.mem_filter.mp isExtra).2

theorem lookup_extra (increasing : Json.Increasing members) (key : String) :
    (gathered members token).extra.lookup key =
      if key ∈ knownKeys then none else members.lookup key := by
  have chosen := Json.lookup_filter (fun key => !knownKeys.contains key) members key
  rw [extra_gathered increasing, chosen]
  by_cases known : key ∈ knownKeys <;> simp [known]

theorem lookup_knownMembers_of_not_mem {key : String} (other : key ∉ knownKeys)
    (payload : TokenPayload) : payload.knownMembers.lookup key = none := by
  simp only [knownKeys, List.mem_cons, List.not_mem_nil, or_false, not_or] at other
  obtain ⟨notToken, notType, notRefresh, notLifetime, notScope⟩ := other
  rw [knownMembers, Json.lookup_cons, if_neg notToken, Json.lookup_cons, if_neg notType,
    Json.lookup_cons, if_neg notRefresh, Json.lookup_cons, if_neg notLifetime, Json.lookup_cons,
    if_neg notScope, List.lookup_nil]

/-- What is written under a key is what was read under it. -/
theorem lookup_written (increasing : Json.Increasing members) (suits : Suits members)
    (isToken : members.lookup "access_token" = some (.string token)) (key : String) :
    ((gathered members token).knownMembers ++ (gathered members token).extra).lookup key =
      if key ∈ optionalKeys then some ((members.lookup key).getD .null)
      else members.lookup key := by
  rw [List.lookup_append, lookup_extra increasing]
  by_cases known : key ∈ knownKeys
  · rw [if_pos known, Option.or_none]
    simp only [knownKeys, List.mem_cons, List.not_mem_nil, or_false] at known
    have isText := fun key inside => textJson_optionalText? (suits.texts key inside)
    obtain rfl | rfl | rfl | rfl | rfl := known
    · rw [if_neg (by decide), isToken]
      rfl
    · rw [if_pos (by decide), ← isText "token_type" (by decide)]
      rfl
    · rw [if_pos (by decide), ← isText "refresh_token" (by decide)]
      have exposed (text : Option String) : (text.map Secret.mk).map Secret.expose = text := by
        cases text <;> rfl
      rw [← exposed (Option.join _)]
      rfl
    · rw [if_pos (by decide), ← secondsJson_optionalSeconds? suits.expiresIn]
      rfl
    · rw [if_pos (by decide), ← isText "scope" (by decide)]
      rfl
  · rw [if_neg known, if_neg (not_mem_optionalKeys known), lookup_knownMembers_of_not_mem known,
      Option.none_or]

/-- A missing member and one that is null are read alike. -/
theorem gathered_of_completes (increasing : Json.Increasing members)
    (completes : Completes members completed) :
    gathered completed token = gathered members token := by
  have kept {α : Type} (key : String) (isOptional : key ∈ optionalKeys)
      (read? : Json.Value → Option (Option α)) (null : read? .null = some none) :
      ((completed.lookup key).bind read?).join = ((members.lookup key).bind read?).join := by
    rw [completes.lookup, if_pos isOptional]
    cases members.lookup key with
    | none =>
      rw [Option.getD_none, Option.bind_some, null]
      rfl
    | some value => rfl
  have extra : (completed.filter fun member => !knownKeys.contains member.1) =
      members.filter fun member => !knownKeys.contains member.1 := by
    refine (completes.increasing.filter _).eq_of_lookup (increasing.filter _) ?_
    intro key
    have chosen (all : List (String × Json.Value)) :=
      Json.lookup_filter (fun key => !knownKeys.contains key) all key
    rw [chosen, chosen, completes.lookup]
    by_cases known : key ∈ knownKeys
    · simp [known]
    · rw [if_neg (not_mem_optionalKeys known)]
  rw [gathered, gathered, kept "token_type" (by decide) optionalText? rfl,
    kept "refresh_token" (by decide) optionalText? rfl,
    kept "expires_in" (by decide) optionalSeconds? rfl,
    kept "scope" (by decide) optionalText? rfl, extra]

theorem suits_of_completes (completes : Completes members completed) (suits : Suits members) :
    Suits completed := by
  -- A member that was missing holds null now, and that suits it too.
  have kept {holds : Json.Value → Prop} (null : holds .null) (key : String)
      (isOptional : key ∈ optionalKeys)
      (suitable : ∀ value, members.lookup key = some value → holds value)
      (value : Json.Value) (found : completed.lookup key = some value) : holds value := by
    rw [completes.lookup, if_pos isOptional] at found
    obtain rfl := Option.some.inj found
    cases before : members.lookup key with
    | none => exact null
    | some value => exact suitable value before
  refine ⟨?_, ?_, ?_⟩
  · obtain ⟨text, isToken⟩ := suits.accessToken
    exact ⟨text, by rw [completes.lookup, if_neg (by decide), isToken]⟩
  · intro key isText
    have isOptional : key ∈ optionalKeys :=
      (by decide : ∀ key ∈ textKeys, key ∈ optionalKeys) key isText
    exact kept (.inl rfl) key isOptional (suits.texts key isText)
  · exact kept (.inl rfl) "expires_in" (by decide) suits.expiresIn

end Writing

/-- An object is read as a payload exactly if it holds an access token and its other known members
suit.  A payload keeps all members of the object that it was read from: writing it gives the object
again, with null for each known member that was missing, and reading what was written gives the
payload again. -/
theorem ofJson_round_trip (value : Json.Value)
    (increasing : ∀ members, value = .object members → Json.Increasing members) :
    ((∃ payload, ofJson value = .ok payload) ↔
      ∃ members, value = .object members ∧ Suits members) ∧
    ∀ payload, ofJson value = .ok payload →
      ∃ members completed written, value = .object members ∧
        payload.extra = members.filter (fun member => !knownKeys.contains member.1) ∧
        Completes members completed ∧
        payload.toSortedJson = .object completed ∧
        payload.toJson = .object written ∧ written.Perm completed ∧
        ofJson payload.toSortedJson = .ok payload := by
  cases value with
  | object members =>
    have ordered := increasing members rfl
    have reads := ofJson_object_iff_suits ordered.nodup_keys
    constructor
    · constructor
      · rintro ⟨payload, read⟩
        exact ⟨members, rfl, ((reads payload).mp read).1⟩
      · rintro ⟨_, isObject, suits⟩
        obtain rfl := Json.Value.object.inj isObject
        obtain ⟨token, isToken⟩ := suits.accessToken
        exact ⟨_, (reads _).mpr ⟨suits, token, isToken, rfl⟩⟩
    · intro payload read
      obtain ⟨suits, token, isToken, rfl⟩ := (reads payload).mp read
      let written := (gathered members token).knownMembers ++ (gathered members token).extra
      have unique : (written.map (·.1)).Nodup := nodup_written ordered
      have completes : Completes members (Json.members written) :=
        ⟨Json.increasing_members written, fun key =>
          (Json.lookup_members_of_nodup unique key).trans
            (lookup_written ordered suits isToken key)⟩
      have sorted : (gathered members token).toSortedJson = .object (Json.members written) := by
        rw [toSortedJson, toJson_eq]
      refine ⟨members, Json.members written, written, rfl, extra_gathered ordered, completes,
        sorted, toJson_eq _, (Json.members_perm unique).symm, ?_⟩
      rw [sorted, ofJson_object_iff_suits completes.increasing.nodup_keys]
      refine ⟨suits_of_completes completes suits, token, ?_,
        (gathered_of_completes ordered completes).symm⟩
      rw [completes.lookup, if_neg (by decide), isToken]
  | _ =>
    refine ⟨⟨?_, ?_⟩, ?_⟩
    · rintro ⟨payload, read⟩
      cases read
    · rintro ⟨members, isObject, -⟩
      cases isObject
    · intro payload read
      cases read

/-- An object with one known member that is null, two that are missing, and two other members. -/
theorem ofJson_round_trip_of_sparse_object :
    ∃ payload, ofJson (.object [("access_token", .string "at"), ("refresh_token", .null),
        ("scope", .string "read"), ("team", .object [("id", .number (.integer 7))]),
        ("user_id", .string "u-42")]) = .ok payload ∧
      payload.extra = [("team", .object [("id", .number (.integer 7))]),
        ("user_id", .string "u-42")] ∧
      payload.toSortedJson = .object [("access_token", .string "at"), ("expires_in", .null),
        ("refresh_token", .null), ("scope", .string "read"),
        ("team", .object [("id", .number (.integer 7))]), ("token_type", .null),
        ("user_id", .string "u-42")] ∧
      ofJson payload.toSortedJson = .ok payload := by
  have increasing : Json.Increasing [("access_token", Json.Value.string "at"),
      ("refresh_token", .null), ("scope", .string "read"),
      ("team", .object [("id", .number (.integer 7))]), ("user_id", .string "u-42")] := by
    unfold Json.Increasing
    decide
  obtain ⟨-, each⟩ := ofJson_round_trip (.object _) fun others isObject =>
    Json.Value.object.inj isObject ▸ increasing
  obtain ⟨others, _, _, isObject, extra, -, -, -, -, again⟩ := each _ rfl
  obtain rfl := Json.Value.object.inj isObject
  exact ⟨_, rfl, extra, rfl, again⟩

end ConfinedHttp.Oauth.TokenPayload
