import ConfinedHttp.Oauth.AuthorizationRequest
import ConfinedHttp.Requestor
import ConfinedHttp.Url.Outline

/-!
The client of an endpoint that gives out tokens.
-/

namespace ConfinedHttp.Oauth

/-- What a token client needs to know. -/
structure TokenClient where
  url : Url
  clientId : String
  clientSecret : Secret
  limit : Nat
deriving DecidableEq

/-- The path of the endpoint below its base. -/
def tokenPath : String := "oauth2/token"

namespace TokenClient

/-- This function finds the endpoint below its base. -/
def make (base clientId clientSecret : String) : Except InputError TokenClient :=
  match Prefix.parse "token endpoint" base with
  | .error cause => .error cause
  | .ok confines =>
    match confines.url.join tokenPath with
    | .error cause => .error (.badUrl "token endpoint" cause)
    | .ok url => .ok ⟨url, clientId, ⟨clientSecret⟩, defaultLimit⟩

def withLimit (client : TokenClient) (limit : Nat) : TokenClient := { client with limit }

/-- The form that exchanges a code for a token. -/
def codeForm (client : TokenClient) (redirect : Url) (code : String) : Multidict :=
  ⟨[("redirect_uri", redirect.text), ("client_id", client.clientId),
    ("client_secret", client.clientSecret.expose), ("grant_type", "authorization_code"),
    ("response_type", "code"), ("code", code)]⟩

/-- The form that refreshes a token. -/
def refreshForm (client : TokenClient) (refreshToken : String) : Multidict :=
  ⟨[("client_id", client.clientId), ("client_secret", client.clientSecret.expose),
    ("grant_type", "refresh_token"), ("refresh_token", refreshToken)]⟩

/-- This function puts a form into a request for the endpoint. -/
def prepare (client : TokenClient) (form : Multidict) : Outbound :=
  { method := .post
    url := client.url
    headers := ⟨[("Content-Type", "application/x-www-form-urlencoded"),
      ("Accept", "application/json")]⟩
    body := some (textBytes form.queryString) }

variable {Source : Type} [Readable Source]

/-- This function reads the answer of the endpoint.  Any status but success is an error, and then
the body is read as well as it can be. -/
def readAnswer (client : TokenClient) (exchange : ExchangeOf Source) : Except Error Json.Value :=
  let body := Readable.read client.limit exchange.body
  if exchange.isSuccess then
    match body with
    | .error cause => .error cause
    | .ok bytes => (decodeBody exchange.status Json.Decoder.any bytes).mapError .decode
  else .error (.refused exchange.status (lossyText (body.toOption.getD [])))

/-- The records of every call, before anything is done. -/
def startObservations (span : Span) : List Observation := [.span span, .count span.operation .attempt]

/-- This function completes a call with its result. -/
def complete (span : Span) (sent : List Outbound) (exchanges : List ExchangeEvent)
    (result : Except Error Json.Value) : Trace Json.Value :=
  ⟨.finished result, sent, exchanges,
    startObservations span ++ [.count span.operation (Outcome.of result)]⟩

/-- This function sends a form. -/
def post (client : TokenClient) (call : Nat) (span : Span) (transport : Outbound → AnswerOf Source)
    (form : Multidict) : Trace Json.Value :=
  let outbound := client.prepare form
  match transport outbound with
  | .pending =>
    ⟨.cancelled, [outbound], [.opened call, .released call], startObservations span⟩
  | .brokenDown => ⟨.brokenDown, [outbound], [], startObservations span⟩
  | .failed cause => complete span [outbound] [] (.error cause)
  | .exchange exchange =>
    complete span [outbound] [.opened call, .read call, .released call]
      (client.readAnswer exchange)

/-- The span of exchanging a code. -/
def exchangeSpan : Span := ⟨.tokenExchange, "exchange_code_for_token"⟩

/-- The span of refreshing a token. -/
def refreshSpan : Span := ⟨.tokenRefresh, "refresh_access_token"⟩

/-- This function exchanges a code for a token.  The redirect URL must be the one that the code was
asked for with. -/
def exchangeCode (client : TokenClient) (call : Nat) (transport : Outbound → AnswerOf Source)
    (redirect code : String) : Trace Json.Value :=
  match normalizedUrl "redirect" redirect with
  | .error cause => complete exchangeSpan [] [] (.error (.input cause))
  | .ok url => client.post call exchangeSpan transport (client.codeForm url code)

/-- This function exchanges a refresh token for a new token. -/
def refresh (client : TokenClient) (call : Nat) (transport : Outbound → AnswerOf Source)
    (refreshToken : String) : Trace Json.Value :=
  client.post call refreshSpan transport (client.refreshForm refreshToken)

/-- The outline shows the endpoint and the client, and nothing secret. -/
def outline (client : TokenClient) : Outline :=
  .record "TokenClient"
    [.field "token_url" client.url.outline, .field "client_id" (.ofText client.clientId)] true

end TokenClient

/-- This function makes a client and exchanges a code in one go.  Without a client nothing is done
or recorded. -/
def exchangeCodeOnce {Source : Type} [Readable Source] (base clientId clientSecret : String)
    (call : Nat) (transport : Outbound → AnswerOf Source) (redirect code : String) :
    Trace Json.Value :=
  match TokenClient.make base clientId clientSecret with
  | .error cause => ⟨.finished (.error (.input cause)), [], [], []⟩
  | .ok client => client.exchangeCode call transport redirect code

end ConfinedHttp.Oauth
