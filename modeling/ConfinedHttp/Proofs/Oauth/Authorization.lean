import ConfinedHttp.Oauth.AuthorizationRequest
import ConfinedHttp.Proofs.Url.UrlRereading

namespace ConfinedHttp.Oauth

theorem absoluteUrl_eq_ok_iff (field raw : String) (url : Url) :
    absoluteUrl field raw = .ok url ↔ Url.parse raw = .ok url ∧ url.isRootless = false := by
  rw [absoluteUrl]
  cases Url.parse raw with
  | error cause => simp
  | ok found =>
    by_cases rootless : found.isRootless = true
    · simp only [rootless, if_true, reduceCtorEq, false_iff, not_and, Except.ok.injEq]
      rintro rfl hasRoot
      simp [hasRoot] at rootless
    · simp only [if_neg rootless, Except.ok.injEq]
      constructor
      · rintro rfl
        exact ⟨rfl, by simpa using rootless⟩
      · exact And.left

/-- Reading the text of a URL once more changes nothing.  It fails only when a label of the host is
too long. -/
theorem normalizedUrl_eq (field raw : String) :
    normalizedUrl field raw =
      match absoluteUrl field raw with
      | .error cause => .error cause
      | .ok url => if url.hasShortLabels then .ok url else .error (.badUrl field .badDomain) := by
  rw [normalizedUrl]
  cases isUrl : absoluteUrl field raw with
  | error cause => rfl
  | ok url =>
    obtain ⟨parsed, hasRoot⟩ := (absoluteUrl_eq_ok_iff field raw url).mp isUrl
    simp only [Url.parse_text_of_parse raw url parsed hasRoot]
    split <;> rfl

theorem normalizedUrl_eq_ok_iff (field raw : String) (url : Url) :
    normalizedUrl field raw = .ok url ↔
      absoluteUrl field raw = .ok url ∧ url.hasShortLabels = true := by
  rw [normalizedUrl_eq]
  cases absoluteUrl field raw with
  | error cause => simp
  | ok found =>
    by_cases short : found.hasShortLabels = true
    · simp only [short, if_true, Except.ok.injEq, iff_self_and]
      rintro rfl
      exact short
    · simp only [if_neg short, reduceCtorEq, Except.ok.injEq, false_iff, not_and]
      rintro rfl
      exact short

/-- A scope is valid when it has a character and none of its characters is white space. -/
def IsValidScope (scope : String) : Prop :=
  scope ≠ "" ∧ ∀ character ∈ scope.toList, isBlank character = false

namespace AuthorizationRequest

theorem isScope_iff (scope : String) : isScope scope = true ↔ IsValidScope scope := by
  simp [isScope, IsValidScope]

/-- Scopes are refused exactly when one is not valid, and the first such scope is reported. -/
theorem withScopes_eq_error_iff (request : AuthorizationRequest) (scopes : List String)
    (cause : InputError) :
    request.withScopes scopes = .error cause ↔
      ∃ before scope after, scopes = before ++ scope :: after ∧
        (∀ other ∈ before, IsValidScope other) ∧ ¬ IsValidScope scope ∧
        cause = .badScope scope := by
  rw [withScopes]
  constructor
  · intro refused
    split at refused
    case h_1 scope found =>
      obtain ⟨bad, before, after, rfl, valid⟩ := List.find?_eq_some_iff_append.mp found
      simp only [Bool.not_eq_true', ← Bool.not_eq_true, isScope_iff] at bad
      simp only [Bool.not_not, isScope_iff] at valid
      exact ⟨before, scope, after, rfl, valid, bad, (Except.error.inj refused).symm⟩
    case h_2 => cases refused
  · rintro ⟨before, scope, after, rfl, valid, bad, rfl⟩
    have found : (before ++ scope :: after).find? (!isScope ·) = some scope := by
      refine List.find?_eq_some_iff_append.mpr ⟨?_, before, after, rfl, ?_⟩
      · simpa [← Bool.not_eq_true, isScope_iff] using bad
      · simpa [isScope_iff] using valid
    rw [found]

theorem withScopes_eq_ok (request asked : AuthorizationRequest) (scopes : List String)
    (accepted : request.withScopes scopes = .ok asked) : asked = { request with scopes } := by
  rw [withScopes] at accepted
  split at accepted
  · cases accepted
  · exact (Except.ok.inj accepted).symm

theorem joinedScopes_eq (request : AuthorizationRequest) :
    request.joinedScopes =
      String.ofList ([request.delimiter].intercalate (request.scopes.map String.toList)) := by
  rw [← String.toList_inj, joinedScopes, String.toList_intercalate, String.toList_ofList]
  simp

/-- The query of the address is read as the pairs of the endpoint and behind them the parameters. -/
theorem queryPairs_url (request : AuthorizationRequest) :
    request.url.queryPairs = request.endpoint.queryPairs ++
      [("response_type", "code"), ("client_id", request.clientId), ("state", request.state),
        ("redirect_uri", request.redirect.text)] ++
      (if request.scopes = [] then []
        else [("scope", String.ofList
          ([request.delimiter].intercalate (request.scopes.map String.toList)))]) := by
  rw [url, Url.queryPairs_appendPairs, parameters, joinedScopes_eq, List.append_assoc]
  cases request.scopes <;> rfl

/-- Both URLs of a request are read once and stay as they are. -/
theorem make_eq_ok (endpoint clientId state redirect : String) (request : AuthorizationRequest)
    (made : make endpoint clientId state redirect = .ok request) :
    ∃ place back, normalizedUrl "authorization endpoint" endpoint = .ok place ∧
      normalizedUrl "redirect" redirect = .ok back ∧
      request = ⟨place, clientId, state, back, [], ' '⟩ := by
  rw [make] at made
  obtain ⟨place, isPlace, made⟩ := exists_of_bind_eq_ok made
  obtain ⟨back, isBack, made⟩ := exists_of_bind_eq_ok made
  exact ⟨place, back, isPlace, isBack, (Except.ok.inj made).symm⟩

/-- The address of every request that is accepted keeps the scheme, the authority, the path and the
fragment of the endpoint.  Its query is read as the pairs of the endpoint and behind them exactly
the parameters of the request, whatever their texts hold.  The scopes stand joined in one pair, if
there are any.  Scopes are refused exactly when one of them is empty or holds white space, and then
the first such scope is reported. -/
theorem url_of_make (endpoint clientId state redirect : String) (request : AuthorizationRequest)
    (made : make endpoint clientId state redirect = .ok request) :
    ∃ place back, Url.parse endpoint = .ok place ∧ Url.parse redirect = .ok back ∧
      ∀ scopes delimiter,
        (∀ cause, request.withScopes scopes = .error cause ↔
          ∃ before scope after, scopes = before ++ scope :: after ∧
            (∀ other ∈ before, IsValidScope other) ∧ ¬ IsValidScope scope ∧
            cause = .badScope scope) ∧
        ∀ asked, request.withScopes scopes = .ok asked →
          let url := (asked.withDelimiter delimiter).url
          let joined := String.ofList ([delimiter].intercalate (scopes.map String.toList))
          url.scheme = place.scheme ∧
          url.authority = place.authority ∧
          url.path = place.path ∧
          url.fragment = place.fragment ∧
          url.queryPairs = place.queryPairs ++
            [("response_type", "code"), ("client_id", clientId), ("state", state),
              ("redirect_uri", back.text)] ++
            (if scopes = [] then [] else [("scope", joined)]) := by
  obtain ⟨place, back, isPlace, isBack, rfl⟩ := make_eq_ok endpoint clientId state redirect _ made
  obtain ⟨absolutePlace, -⟩ := (normalizedUrl_eq_ok_iff ..).mp isPlace
  obtain ⟨absoluteBack, -⟩ := (normalizedUrl_eq_ok_iff ..).mp isBack
  refine ⟨place, back, ((absoluteUrl_eq_ok_iff ..).mp absolutePlace).1,
    ((absoluteUrl_eq_ok_iff ..).mp absoluteBack).1, fun scopes delimiter =>
      ⟨withScopes_eq_error_iff _ scopes, fun asked accepted => ?_⟩⟩
  obtain rfl := withScopes_eq_ok _ asked scopes accepted
  exact ⟨rfl, rfl, rfl, rfl,
    queryPairs_url ⟨place, clientId, state, back, scopes, delimiter⟩⟩

/-- An endpoint with a query and a fragment of its own, and texts that look like parameters. -/
theorem url_of_make_marked :
    ∃ request, make "https://[::1]/authorize?audience=a&&audience=b&#top" "id&state=forged"
        "s=1&scope=all é" "HTTPS://[0:0::1]:443/back?next=/" = .ok request ∧
      ∃ asked, request.withScopes ["read", "write:all"] = .ok asked ∧
        (asked.withDelimiter ',').url.fragment = some "top" ∧
        (asked.withDelimiter ',').url.queryPairs =
          [("audience", "a"), ("audience", "b"), ("response_type", "code"),
            ("client_id", "id&state=forged"), ("state", "s=1&scope=all é"),
            ("redirect_uri", "https://[::1]/back?next=/"), ("scope", "read,write:all")] := by
  have made : ∃ request, make "https://[::1]/authorize?audience=a&&audience=b&#top"
      "id&state=forged" "s=1&scope=all é" "HTTPS://[0:0::1]:443/back?next=/" = .ok request :=
    ⟨_, rfl⟩
  obtain ⟨request, isMade⟩ := made
  obtain ⟨place, back, isPlace, isBack, each⟩ := url_of_make _ _ _ _ request isMade
  obtain ⟨-, accepted⟩ := each ["read", "write:all"] ','
  have asked : ∃ asked, request.withScopes ["read", "write:all"] = .ok asked := ⟨_, rfl⟩
  obtain ⟨asked, isAsked⟩ := asked
  obtain ⟨-, -, -, fragment, pairs⟩ := accepted asked isAsked
  obtain rfl := Except.ok.inj isPlace
  obtain rfl := Except.ok.inj isBack
  refine ⟨request, isMade, asked, isAsked, fragment.trans ?_, pairs.trans ?_⟩ <;> decide +kernel

end AuthorizationRequest

end ConfinedHttp.Oauth
