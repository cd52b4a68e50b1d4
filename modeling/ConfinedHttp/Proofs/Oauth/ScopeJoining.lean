import ConfinedHttp.Proofs.Oauth.Authorization

/-!
The scopes that a provider reads from an address.  They stand joined in one parameter, and the provider
cuts its text at every delimiter, so it reads the pieces of each scope.
-/

namespace ConfinedHttp.Oauth

/-- This function reads the scopes from a text in which they are joined. -/
def readScopes (delimiter : Char) (text : String) : List String :=
  (splitAt (· == delimiter) text.toList).map String.ofList

section Reading

variable (delimiter : Char)

/-- No two texts are read alike, since joining undoes reading. -/
theorem readScopes_injective : Function.Injective (readScopes delimiter) := by
  intro text other same
  rw [readScopes, readScopes, List.map_inj_right fun _ _ => String.ofList_inj.mp] at same
  rw [← String.toList_inj, ← intercalate_splitAt delimiter text.toList, same, intercalate_splitAt]

theorem flatMap_readScopes (scopes : List String) :
    scopes.flatMap (readScopes delimiter) =
      ((scopes.map String.toList).flatMap (splitAt (· == delimiter))).map String.ofList := by
  simp only [List.map_flatMap, List.flatMap_map]
  rfl

/-- Scopes stay whole exactly when none of them holds the delimiter. -/
theorem flatMap_readScopes_eq_self_iff (scopes : List String) :
    scopes.flatMap (readScopes delimiter) = scopes ↔
      ∀ scope ∈ scopes, delimiter ∉ scope.toList := by
  have back : (scopes.map String.toList).map String.ofList = scopes := by simp
  have whole := flatMap_splitAt_eq_self_iff (· == delimiter) (scopes.map String.toList)
  rw [flatMap_readScopes]
  nth_rewrite 2 [← back]
  rw [List.map_inj_right fun _ _ => String.ofList_inj.mp, whole, List.forall_mem_map]
  refine forall₂_congr fun scope _ => ⟨fun clean inside => ?_, fun clean character inside => ?_⟩
  · simpa using clean delimiter inside
  · exact beq_false_of_ne fun equal => clean (equal ▸ inside)

end Reading

namespace AuthorizationRequest

/-- The address has one parameter more than without scopes.  It holds this text. -/
def AsksFor (request : AuthorizationRequest) (text : String) : Prop :=
  request.url.queryPairs =
    ({ request with scopes := [] } : AuthorizationRequest).url.queryPairs ++ [("scope", text)]

theorem asksFor_iff_joinedScopes (request : AuthorizationRequest) (text : String) :
    request.AsksFor text ↔ request.scopes ≠ [] ∧ request.joinedScopes = text := by
  rw [AsksFor, queryPairs_url, queryPairs_url, ← joinedScopes_eq]
  by_cases none : request.scopes = [] <;> simp [none]

/-- What is read from the joined scopes are the pieces of each. -/
theorem readScopes_joinedScopes (request : AuthorizationRequest) (some : request.scopes ≠ []) :
    readScopes request.delimiter request.joinedScopes =
      request.scopes.flatMap (readScopes request.delimiter) := by
  rw [joinedScopes_eq, readScopes, String.toList_ofList,
    splitAt_intercalate_eq_flatMap (· == request.delimiter) _ _ (beq_self_eq_true _)
      (by simpa using some), flatMap_readScopes]

/-- The parameter holds the one text from which the pieces of the scopes are read. -/
theorem asksFor_iff (request : AuthorizationRequest) (text : String) :
    request.AsksFor text ↔ request.scopes ≠ [] ∧
      readScopes request.delimiter text =
        request.scopes.flatMap (readScopes request.delimiter) := by
  rw [asksFor_iff_joinedScopes]
  refine and_congr_right fun some => ?_
  rw [← readScopes_joinedScopes request some, (readScopes_injective request.delimiter).eq_iff]
  exact eq_comm

/-- It does not matter whether the delimiter or the scopes are set first. -/
theorem withScopes_withDelimiter (request : AuthorizationRequest) (delimiter : Char)
    (scopes : List String) :
    (request.withDelimiter delimiter).withScopes scopes =
      (request.withScopes scopes).map (·.withDelimiter delimiter) := by
  rw [withScopes, withScopes]
  cases scopes.find? (!isScope ·) <;> rfl

theorem isValidScope_of_withScopes (request asked : AuthorizationRequest) (scopes : List String)
    (accepted : request.withScopes scopes = .ok asked) :
    ∀ scope ∈ scopes, IsValidScope scope := by
  rw [withScopes] at accepted
  split at accepted
  case h_1 => cases accepted
  case h_2 none =>
    intro scope inside
    rw [← isScope_iff]
    simpa using List.find?_eq_none.mp none scope inside

/-- Scopes that are accepted are asked for in one parameter, if there are any, and the order in which
the scopes and the delimiter are set does not count.  From the parameter the pieces of each scope are
read.  So the scopes themselves are read, in their order, exactly when none of them holds the
delimiter, which is so for every delimiter that is white space.  Two lists ask for the same text exactly
when they have the same pieces; lists without the delimiter do so only when they are equal. -/
theorem asksFor_withScopes (request asked : AuthorizationRequest) (scopes : List String)
    (delimiter : Char) (accepted : request.withScopes scopes = .ok asked) :
    (request.withDelimiter delimiter).withScopes scopes = .ok (asked.withDelimiter delimiter) ∧
      ((∃ text, (asked.withDelimiter delimiter).AsksFor text) ↔ scopes ≠ []) ∧
      ∀ text, (asked.withDelimiter delimiter).AsksFor text →
        readScopes delimiter text = scopes.flatMap (readScopes delimiter) ∧
        (readScopes delimiter text = scopes ↔ ∀ scope ∈ scopes, delimiter ∉ scope.toList) ∧
        (isBlank delimiter = true → readScopes delimiter text = scopes) ∧
        ∀ others again, request.withScopes others = .ok again → others ≠ [] →
          ((again.withDelimiter delimiter).AsksFor text ↔
            others.flatMap (readScopes delimiter) = scopes.flatMap (readScopes delimiter)) ∧
          ((∀ scope ∈ scopes ++ others, delimiter ∉ scope.toList) →
            ((again.withDelimiter delimiter).AsksFor text ↔ others = scopes)) := by
  have valid := isValidScope_of_withScopes request asked scopes accepted
  have swapped : (request.withDelimiter delimiter).withScopes scopes =
      .ok (asked.withDelimiter delimiter) := by
    rw [withScopes_withDelimiter, accepted]
    rfl
  obtain rfl := withScopes_eq_ok request asked scopes accepted
  have asks (list : List String) (text : String) :
      (({ request with scopes := list } : AuthorizationRequest).withDelimiter delimiter).AsksFor
        text ↔ list ≠ [] ∧ readScopes delimiter text = list.flatMap (readScopes delimiter) :=
    asksFor_iff _ text
  have whole := flatMap_readScopes_eq_self_iff delimiter
  refine ⟨swapped, ?asked, fun text isAsked => ?_⟩
  case asked =>
    refine ⟨fun ⟨text, isAsked⟩ => ((asks scopes text).mp isAsked).1, fun notNone => ?_⟩
    exact ⟨_, (asksFor_iff_joinedScopes _ _).mpr ⟨notNone, rfl⟩⟩
  obtain ⟨notNone, pieces⟩ := (asks scopes text).mp isAsked
  refine ⟨pieces, by rw [pieces, whole], fun blank => ?_, fun others again taken many => ?_⟩
  · refine pieces.trans ((whole scopes).mpr fun scope inside within => ?_)
    rw [(valid scope inside).2 delimiter within] at blank
    cases blank
  · obtain rfl := withScopes_eq_ok request again others taken
    have same := (asks others text).trans (and_iff_right many)
    rw [pieces, eq_comm] at same
    refine ⟨same, fun clean => same.trans ?_⟩
    obtain ⟨first, second⟩ := List.forall_mem_append.mp clean
    rw [(whole scopes).mpr first, (whole others).mpr second]

/-- Two lists that ask for the same text with a comma, and not with a space. -/
theorem asksFor_withScopes_shared :
    ∃ request, make "https://[::1]/authorize?scope=own" "id" "s" "https://[::1]/back" = .ok request ∧
      ∃ two one, request.withScopes ["read", "write"] = .ok two ∧
        request.withScopes ["read,write"] = .ok one ∧
        (∃ text, (two.withDelimiter ',').AsksFor text ∧ (one.withDelimiter ',').AsksFor text ∧
          readScopes ',' text = ["read", "write"]) ∧
        ∃ text, (one.withDelimiter ' ').AsksFor text ∧ ¬ (two.withDelimiter ' ').AsksFor text ∧
          readScopes ' ' text = ["read,write"] := by
  have made : ∃ request, make "https://[::1]/authorize?scope=own" "id" "s" "https://[::1]/back" =
      .ok request := ⟨_, rfl⟩
  obtain ⟨request, isMade⟩ := made
  have taken : ∃ two one, request.withScopes ["read", "write"] = .ok two ∧
      request.withScopes ["read,write"] = .ok one := ⟨_, _, rfl, rfl⟩
  obtain ⟨two, one, isTwo, isOne⟩ := taken
  refine ⟨request, isMade, two, one, isTwo, isOne, ?comma, ?space⟩
  case comma =>
    obtain ⟨-, asked, each⟩ := asksFor_withScopes request two ["read", "write"] ',' isTwo
    obtain ⟨text, isAsked⟩ := asked.mpr (by decide)
    obtain ⟨-, whole, -, others⟩ := each text isAsked
    exact ⟨text, isAsked, (others _ one isOne (by decide)).1.mpr (by decide), whole.mpr (by decide)⟩
  case space =>
    obtain ⟨-, asked, each⟩ := asksFor_withScopes request one ["read,write"] ' ' isOne
    obtain ⟨text, isAsked⟩ := asked.mpr (by decide)
    obtain ⟨-, -, blank, others⟩ := each text isAsked
    exact ⟨text, isAsked, ((others _ two isTwo (by decide)).2 (by decide)).not.mpr (by decide),
      blank rfl⟩

/-- A scope that holds the delimiter is read as two. -/
theorem not_readScopes_of_delimiter :
    ¬ ∀ endpoint clientId state redirect request asked scopes delimiter text,
      make endpoint clientId state redirect = .ok request → request.withScopes scopes = .ok asked →
        (asked.withDelimiter delimiter).AsksFor text → readScopes delimiter text = scopes := by
  intro whole
  have read := whole "https://[::1]/authorize" "id" "s" "https://[::1]/back" _ _ ["read,write"] ','
    "read,write" rfl rfl ((asksFor_iff_joinedScopes _ _).mpr ⟨by decide, rfl⟩)
  exact absurd read (by decide)

end AuthorizationRequest

end ConfinedHttp.Oauth
