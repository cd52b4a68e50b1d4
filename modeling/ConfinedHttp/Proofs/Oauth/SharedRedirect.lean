import ConfinedHttp.Proofs.Oauth.TokenCalls
import ConfinedHttp.Proofs.Url.LongLabel

namespace ConfinedHttp.Oauth

/-- The values of the parameter that names a redirect URL. -/
def redirectsOf (pairs : List (String × String)) : List String :=
  (Multidict.mk pairs).getAll "redirect_uri"

theorem redirectsOf_append (first second : List (String × String)) :
    redirectsOf (first ++ second) = redirectsOf first ++ redirectsOf second := by
  simp [redirectsOf, Multidict.getAll]

/-- Both halves of a flow refuse a redirect URL for the same cause, and no token is asked for. -/
structure RefusesRedirect (cause : InputError) (made : Except InputError AuthorizationRequest)
    (trace : Trace Json.Value) : Prop where
  authorization : made = .error cause
  exchange : trace.completion = .finished (.error (.input cause))
  unsent : trace.sent = []

/-- Both halves of a flow send the same redirect URL.  The address names it behind what the endpoint
names already, whatever scopes are asked for.  The one request for a token names nothing else. -/
structure SharesRedirect (place back : Url) (made : Except InputError AuthorizationRequest)
    (trace : Trace Json.Value) : Prop where
  authorization : ∃ request, made = .ok request ∧
    ∀ scopes delimiter asked, request.withScopes scopes = .ok asked →
      redirectsOf (asked.withDelimiter delimiter).url.queryPairs =
        redirectsOf place.queryPairs ++ [back.text]
  exchange : ∃ outbound, trace.sent = [outbound] ∧
    (outbound.body.map Form.decode).map redirectsOf = some [back.text]

/-- The parameters of a request name its redirect URL once. -/
theorem redirectsOf_url (request : AuthorizationRequest) :
    redirectsOf request.url.queryPairs =
      redirectsOf request.endpoint.queryPairs ++ [request.redirect.text] := by
  have named : redirectsOf [("response_type", "code"), ("client_id", request.clientId),
      ("state", request.state), ("redirect_uri", request.redirect.text)] =
      [request.redirect.text] := by
    simp [redirectsOf, Multidict.getAll]
  rw [request.queryPairs_url, redirectsOf_append, redirectsOf_append, named]
  split
  · simp [redirectsOf, Multidict.getAll]
  · simp [redirectsOf, Multidict.getAll]

theorem redirectsOf_codeForm (client : TokenClient) (back : Url) (code : String) :
    redirectsOf (client.codeForm back code).pairs = [back.text] := by
  simp [redirectsOf, Multidict.getAll, TokenClient.codeForm]

section Flow

variable {endpoint clientId state redirect code : String} (client : TokenClient) (call : Nat)
  (transport : Outbound → Answer) {place : Url}
  (isPlace : normalizedUrl "authorization endpoint" endpoint = .ok place)

include isPlace

theorem refusesRedirect_of_error (cause : InputError)
    (refused : normalizedUrl "redirect" redirect = .error cause) :
    RefusesRedirect cause (AuthorizationRequest.make endpoint clientId state redirect)
      (client.exchangeCode call transport redirect code) where
  authorization := by
    rw [AuthorizationRequest.make, isPlace, refused]
    rfl
  exchange := by
    rw [TokenClient.exchangeCode, refused]
    rfl
  unsent := by
    rw [TokenClient.exchangeCode, refused]
    rfl

theorem sharesRedirect_of_ok (back : Url) (isBack : normalizedUrl "redirect" redirect = .ok back) :
    SharesRedirect place back (AuthorizationRequest.make endpoint clientId state redirect)
      (client.exchangeCode call transport redirect code) where
  authorization := by
    have made : AuthorizationRequest.make endpoint clientId state redirect =
        .ok ⟨place, clientId, state, back, [], ' '⟩ := by
      rw [AuthorizationRequest.make, isPlace, isBack]
      rfl
    refine ⟨_, made, fun scopes delimiter asked accepted => ?_⟩
    obtain rfl := AuthorizationRequest.withScopes_eq_ok _ asked scopes accepted
    exact redirectsOf_url ⟨place, clientId, state, back, scopes, delimiter⟩
  exchange := by
    refine ⟨client.prepare (client.codeForm back code), ?_, ?_⟩
    · rw [TokenClient.exchangeCode, isBack]
      exact client.sent_post call _ transport _
    · rw [client.decode_prepare, Option.map_some, redirectsOf_codeForm]

end Flow

/-- For every redirect URL, both halves of a flow refuse it for the same cause or send the same text,
which is that of the URL that was read.  That text is read again as the same URL, with one exception:
if it has a label in ASCII form that is too long to be read, both halves refuse it. -/
theorem redirect_agrees (endpoint clientId state redirect code : String) (client : TokenClient)
    (call : Nat) (transport : Outbound → Answer) (place : Url)
    (isPlace : normalizedUrl "authorization endpoint" endpoint = .ok place) :
    let made := AuthorizationRequest.make endpoint clientId state redirect
    let trace := client.exchangeCode call transport redirect code
    (∀ cause, absoluteUrl "redirect" redirect = .error cause → RefusesRedirect cause made trace) ∧
      ∀ back, absoluteUrl "redirect" redirect = .ok back →
        (¬ back.HasLongLabel →
          SharesRedirect place back made trace ∧ Url.parse back.text = .ok back) ∧
        (back.HasLongLabel →
          RefusesRedirect (.badUrl "redirect" .badDomain) made trace ∧
            Url.parse back.text = .error .badDomain) := by
  intro made trace
  have normalized := normalizedUrl_eq "redirect" redirect
  refine ⟨fun cause refused => ?_, fun back isBack => ?_⟩
  · rw [refused] at normalized
    exact refusesRedirect_of_error client call transport isPlace cause normalized
  · obtain ⟨parsed, hasRoot⟩ := (absoluteUrl_eq_ok_iff ..).mp isBack
    have again := Url.parse_text_of_parse redirect back parsed hasRoot
    rw [isBack] at normalized
    simp only [Url.hasLongLabel_iff, Bool.not_eq_false]
    refine ⟨fun short => ?_, fun long => ?_⟩
    · rw [if_pos short] at again
      simp only [short, if_true] at normalized
      exact ⟨sharesRedirect_of_ok client call transport isPlace back normalized, again⟩
    · rw [if_neg (by simp [long])] at again
      simp only [long, Bool.false_eq_true, if_false] at normalized
      exact ⟨refusesRedirect_of_error client call transport isPlace _ normalized, again⟩

/-- An endpoint that names another redirect URL already, and a redirect URL with a query and a
fragment of its own. -/
theorem redirect_agrees_marked :
    let transport (_ : Outbound) : Answer := .brokenDown
    let client : TokenClient := ⟨Url.localFile, "id", ⟨"secret"⟩, 8⟩
    let redirect := "HTTPS://[0::1]:443/back?next=/&redirect_uri=b#c"
    ∃ request asked outbound,
      AuthorizationRequest.make "https://[::1]/authorize?redirect_uri=other" "id" "state" redirect =
        .ok request ∧
      request.withScopes ["read"] = .ok asked ∧
      redirectsOf (asked.withDelimiter ',').url.queryPairs =
        ["other", "https://[::1]/back?next=/&redirect_uri=b#c"] ∧
      (client.exchangeCode 0 transport redirect "code").sent = [outbound] ∧
      (outbound.body.map Form.decode).map redirectsOf =
        some ["https://[::1]/back?next=/&redirect_uri=b#c"] := by
  intro transport client redirect
  let back : Url :=
    ⟨"https", some ⟨"", none, .ipv6 ⟨[0, 0, 0, 0, 0, 0, 0, 1], rfl⟩, none⟩, .rooted ["back"],
      some "next=/&redirect_uri=b", some "c"⟩
  have isPlace : ∃ place,
      normalizedUrl "authorization endpoint" "https://[::1]/authorize?redirect_uri=other" =
        .ok place ∧ redirectsOf place.queryPairs = ["other"] :=
    ⟨_, rfl, by decide +kernel⟩
  have isBack : absoluteUrl "redirect" redirect = .ok back := by decide +kernel
  have written : back.text = "https://[::1]/back?next=/&redirect_uri=b#c" := by decide +kernel
  have short : ¬ back.HasLongLabel := by
    rintro ⟨-, authority, name, isAuthority, isName, -⟩
    obtain rfl := Option.some.inj isAuthority
    cases isName
  obtain ⟨place, isPlace, other⟩ := isPlace
  obtain ⟨-, accepts⟩ := redirect_agrees "https://[::1]/authorize?redirect_uri=other" "id" "state"
    redirect "code" client 0 transport place isPlace
  obtain ⟨⟨⟨request, made, asks⟩, outbound, isSent, sends⟩, -⟩ := (accepts back isBack).1 short
  have named := asks ["read"] ',' _ rfl
  rw [other, written] at named
  rw [written] at sends
  exact ⟨request, _, outbound, made, rfl, named, isSent, sends⟩

/-- A redirect URL that is accepted, and whose own text is not: the host turns into a label that is
too long. -/
theorem redirect_not_reread :
    ∃ back, absoluteUrl "redirect" Url.longUrl = .ok back ∧
      Url.parse back.text = .error .badDomain := by
  obtain ⟨back, parsed, hasRoot, long⟩ := Url.parse_longUrl
  refine ⟨back, (absoluteUrl_eq_ok_iff ..).mpr ⟨parsed, hasRoot⟩, ?_⟩
  rw [Url.parse_text_of_parse _ back parsed hasRoot, (Url.hasLongLabel_iff back).mp long]
  rfl

end ConfinedHttp.Oauth
