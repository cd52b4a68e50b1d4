import ConfinedHttp.Oauth.TokenPayload
import ConfinedHttp.Proofs.Json.MemberLookup
import ConfinedHttp.Proofs.Url.UrlReading

namespace ConfinedHttp.Oauth.TokenPayload

/-- The text that a value is. -/
def text? : Json.Value → Option String
  | .string text => some text
  | _ => none

/-- The seconds that a value is, if it is not null. -/
def optionalSeconds? : Json.Value → Option (Option Int)
  | .null => some none
  | .number (.integer seconds) =>
    if leastSeconds ≤ seconds ∧ seconds ≤ greatestSeconds then some (some seconds) else none
  | _ => none

/-- The key of the members that are read as such a part, if every provider uses it. -/
def Part.key? : Part → Option String
  | .accessToken _ => some "access_token"
  | .tokenType _ => some "token_type"
  | .refreshToken _ => some "refresh_token"
  | .expiresIn _ => some "expires_in"
  | .scope _ => some "scope"
  | .extra _ => none

namespace Part

def accessToken? : Part → Option Secret
  | .accessToken token => some token
  | _ => none

def tokenType? : Part → Option (Option String)
  | .tokenType text => some text
  | _ => none

def refreshToken? : Part → Option (Option Secret)
  | .refreshToken token => some token
  | _ => none

/-- The part of a member that is read as a lifetime. -/
def lifetime? : Part → Option (Option Int)
  | .expiresIn seconds => some seconds
  | _ => none

def scope? : Part → Option (Option String)
  | .scope text => some text
  | _ => none

def extra? : Part → Option Json.Value
  | .extra value => some value
  | _ => none

end Part

section Known

theorem partOf?_accessToken (value : Json.Value) :
    partOf? "access_token" value = (text? value).map fun text => .accessToken ⟨text⟩ := by
  cases value <;> rfl

theorem partOf?_tokenType (value : Json.Value) :
    partOf? "token_type" value = (optionalText? value).map .tokenType := rfl

theorem partOf?_refreshToken (value : Json.Value) :
    partOf? "refresh_token" value =
      (optionalText? value).map fun text => .refreshToken (text.map Secret.mk) := rfl

theorem partOf?_expiresIn (value : Json.Value) :
    partOf? "expires_in" value = (optionalSeconds? value).map .expiresIn := by
  cases value with
  | number number =>
    cases number with
    | integer seconds =>
      exact (apply_ite (Option.map Part.expiresIn)
        (leastSeconds ≤ seconds ∧ seconds ≤ greatestSeconds) (some (some seconds)) none).symm
    | real => rfl
  | _ => rfl

theorem partOf?_scope (value : Json.Value) :
    partOf? "scope" value = (optionalText? value).map .scope := rfl

/-- A member that not every provider uses is kept as it is. -/
theorem partOf?_of_not_mem_knownKeys {key : String} (other : key ∉ knownKeys) (value : Json.Value) :
    partOf? key value = some (.extra value) := by
  simp only [knownKeys, List.mem_cons, List.not_mem_nil, or_false, not_or] at other
  obtain ⟨notToken, notType, notRefresh, notLifetime, notScope⟩ := other
  rw [partOf?.eq_def, if_neg notToken, if_neg notType, if_neg notRefresh, if_neg notLifetime,
    if_neg notScope]

/-- A member that every provider uses is read as a part with its key. -/
theorem key?_of_partOf? {key : String} {value : Json.Value} {part : Part} (known : key ∈ knownKeys)
    (read : partOf? key value = some part) : part.key? = some key := by
  have ofMap {α : Type} {found : Option α} {wrap : α → Part}
      (isMap : partOf? key value = found.map wrap) (keys : ∀ content, (wrap content).key? = some key) : part.key? = some key := by
    obtain ⟨content, -, rfl⟩ := Option.map_eq_some_iff.mp (isMap.symm.trans read)
    exact keys content
  simp only [knownKeys, List.mem_cons, List.not_mem_nil, or_false] at known
  obtain rfl | rfl | rfl | rfl | rfl := known
  · exact ofMap (partOf?_accessToken value) fun _ => rfl
  · exact ofMap (partOf?_tokenType value) fun _ => rfl
  · exact ofMap (partOf?_refreshToken value) fun _ => rfl
  · exact ofMap (partOf?_expiresIn value) fun _ => rfl
  · exact ofMap (partOf?_scope value) fun _ => rfl

end Known

section Parts

variable {α : Type} {members : List (String × Json.Value)} {entries : List (String × Part)}

theorem partsOf_cons_eq_ok_iff {key : String} {value : Json.Value} :
    partsOf ((key, value) :: members) = .ok entries ↔
      ∃ part others, partOf? key value = some part ∧ partsOf members = .ok others ∧
        entries = (key, part) :: others := by
  rw [partsOf]
  constructor
  · intro read
    split at read
    case h_2 => cases read
    case h_1 part isPart =>
      cases later : partsOf members with
      | error cause => simp [later, Except.map] at read
      | ok others =>
        rw [later] at read
        exact ⟨part, others, isPart, rfl, (Except.ok.inj read).symm⟩
  · rintro ⟨part, others, isPart, later, rfl⟩
    rw [isPart, later]
    rfl

/-- The members of an object can be read if each of them can. -/
theorem exists_partsOf_iff (members : List (String × Json.Value)) :
    (∃ entries, partsOf members = .ok entries) ↔
      ∀ member ∈ members, (partOf? member.1 member.2).isSome := by
  induction members with
  | nil => simp [partsOf]
  | cons member rest inductionHypothesis =>
    obtain ⟨key, value⟩ := member
    rw [List.forall_mem_cons, ← inductionHypothesis, Option.isSome_iff_exists]
    simp only [partsOf_cons_eq_ok_iff]
    constructor
    · rintro ⟨_, part, others, isPart, later, rfl⟩
      exact ⟨⟨part, isPart⟩, others, later⟩
    · rintro ⟨⟨part, isPart⟩, others, later⟩
      exact ⟨_, part, others, isPart, later, rfl⟩

/-- The first part that is selected by its key was read from the first member with that key. -/
theorem findSome_partsOf {β : Type} (select : Part → Option β) {known : String}
    {read? : Json.Value → Option α} {wrap : α → Part} {content : α → β}
    (selects : ∀ part, (select part).isSome = (part.key? == some known))
    (reads : ∀ value, partOf? known value = (read? value).map wrap)
    (unwraps : ∀ found, select (wrap found) = some (content found))
    (read : partsOf members = .ok entries) :
    (entries.map (·.2)).findSome? select = ((members.lookup known).bind read?).map content := by
  induction members generalizing entries with
  | nil =>
    obtain rfl := Except.ok.inj read
    rfl
  | cons member rest inductionHypothesis =>
    obtain ⟨key, value⟩ := member
    obtain ⟨part, others, isPart, later, rfl⟩ := partsOf_cons_eq_ok_iff.mp read
    rw [Json.lookup_cons, List.map_cons]
    -- The first member with the key decides, and a part that was read under another key is passed.
    by_cases isKey : known = key
    · subst isKey
      obtain ⟨found, isFound, rfl⟩ := Option.map_eq_some_iff.mp ((reads value).symm.trans isPart)
      rw [List.findSome?_cons_of_isSome (by rw [unwraps]; rfl), if_pos rfl, Option.bind_some,
        isFound, unwraps, Option.map_some]
    · have different : part.key? ≠ some known := by
        by_cases isKnownKey : key ∈ knownKeys
        · rw [key?_of_partOf? isKnownKey isPart]
          simpa using Ne.symm isKey
        · rw [partOf?_of_not_mem_knownKeys isKnownKey] at isPart
          rw [← Option.some.inj isPart]
          nofun
      have unselected := selects part
      rw [beq_false_of_ne different, Option.isSome_eq_false_iff] at unselected
      rw [List.findSome?_cons_of_isNone unselected, if_neg isKey]
      exact inductionHypothesis later

/-- The parts that not every provider uses were read from the members with other keys. -/
theorem filterMap_partsOf (read : partsOf members = .ok entries) :
    (entries.filterMap fun entry => entry.2.extra?.map (entry.1, ·)) =
      members.filter fun member => !knownKeys.contains member.1 := by
  induction members generalizing entries with
  | nil =>
    obtain rfl := Except.ok.inj read
    rfl
  | cons member rest inductionHypothesis =>
    obtain ⟨key, value⟩ := member
    obtain ⟨part, others, isPart, later, rfl⟩ := partsOf_cons_eq_ok_iff.mp read
    rw [List.filter_cons, List.filterMap_cons, inductionHypothesis later]
    by_cases known : key ∈ knownKeys
    · have isKey := key?_of_partOf? known isPart
      cases part with
      | extra => cases isKey
      | _ => simp [known, Part.extra?]
    · rw [partOf?_of_not_mem_knownKeys known] at isPart
      obtain rfl := Option.some.inj isPart
      simp [known, Part.extra?]

/-- Each part of a payload is the first one of its kind, and the parts of no such kind are kept. -/
theorem gather?_eq (entries : List (String × Part)) :
    gather? entries = ((entries.map (·.2)).findSome? Part.accessToken?).map fun accessToken =>
      { accessToken
        tokenType := ((entries.map (·.2)).findSome? Part.tokenType?).join
        refreshToken := ((entries.map (·.2)).findSome? Part.refreshToken?).join
        expiresIn := ((entries.map (·.2)).findSome? Part.lifetime?).join
        scope := ((entries.map (·.2)).findSome? Part.scope?).join
        extra := Json.members
          (entries.filterMap fun entry => entry.2.extra?.map (entry.1, ·)) } := by
  rw [gather?]
  congr 1
  funext accessToken
  congr 1
  refine congrArg Json.members (List.filterMap_congr fun entry _ => ?_)
  obtain ⟨key, part⟩ := entry
  cases part <;> rfl

/-- The payload that the members of an object make up with an access token. -/
def gathered (members : List (String × Json.Value)) (token : String) : TokenPayload where
  accessToken := ⟨token⟩
  tokenType := ((members.lookup "token_type").bind optionalText?).join
  refreshToken := ((members.lookup "refresh_token").bind optionalText?).join.map Secret.mk
  expiresIn := ((members.lookup "expires_in").bind optionalSeconds?).join
  scope := ((members.lookup "scope").bind optionalText?).join
  extra := Json.members (members.filter fun member => !knownKeys.contains member.1)

theorem gather?_partsOf (read : partsOf members = .ok entries) :
    gather? entries = ((members.lookup "access_token").bind text?).map (gathered members) := by
  have token := findSome_partsOf Part.accessToken? (fun part => by cases part <;> rfl)
    partOf?_accessToken (fun _ => rfl) read
  have tokenType := findSome_partsOf Part.tokenType? (fun part => by cases part <;> rfl)
    partOf?_tokenType (fun _ => rfl) read
  have refreshToken := findSome_partsOf Part.refreshToken? (fun part => by cases part <;> rfl)
    partOf?_refreshToken (fun _ => rfl) read
  have expiresIn := findSome_partsOf Part.lifetime? (fun part => by cases part <;> rfl)
    partOf?_expiresIn (fun _ => rfl) read
  have scope := findSome_partsOf Part.scope? (fun part => by cases part <;> rfl)
    partOf?_scope (fun _ => rfl) read
  rw [gather?_eq, token, tokenType, refreshToken, expiresIn, scope, filterMap_partsOf read,
    Option.join_map_eq_map_join, Option.map_map]
  simp only [Option.map_id']
  rfl

theorem exists_gather?_iff (read : partsOf members = .ok entries) (payload : TokenPayload) :
    gather? entries = some payload ↔
      ∃ token, members.lookup "access_token" = some (.string token) ∧
        payload = gathered members token := by
  rw [gather?_partsOf read, Option.map_eq_some_iff]
  constructor
  · rintro ⟨token, isToken, rfl⟩
    obtain ⟨value, found, isText⟩ := Option.bind_eq_some_iff.mp isToken
    cases value with
    | string text =>
      obtain rfl := Option.some.inj isText
      exact ⟨text, found, rfl⟩
    | _ => cases isText
  · rintro ⟨token, found, rfl⟩
    exact ⟨token, by rw [found]; rfl, rfl⟩

/-- An object is read if each of its members can be read and one of them is an access token. -/
theorem ofJson_object_eq_ok_iff (members : List (String × Json.Value)) (payload : TokenPayload) :
    ofJson (.object members) = .ok payload ↔
      (∀ member ∈ members, (partOf? member.1 member.2).isSome) ∧
        ∃ token, members.lookup "access_token" = some (.string token) ∧
          payload = gathered members token := by
  rw [ofJson, ← exists_partsOf_iff]
  constructor
  · intro read
    obtain ⟨entries, isEntries, read⟩ := exists_of_bind_eq_ok read
    refine ⟨⟨entries, isEntries⟩, (exists_gather?_iff isEntries payload).mp ?_⟩
    split at read
    case h_1 found isPayload => rw [isPayload, Except.ok.inj read]
    case h_2 => cases read
  · rintro ⟨⟨entries, isEntries⟩, made⟩
    simp only [isEntries, (exists_gather?_iff isEntries payload).mpr made, bind, Except.bind]

end Parts

end ConfinedHttp.Oauth.TokenPayload
