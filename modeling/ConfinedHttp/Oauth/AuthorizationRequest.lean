import ConfinedHttp.Error
import ConfinedHttp.Observation
import ConfinedHttp.Text.Blank
import ConfinedHttp.Url.Parse
import ConfinedHttp.Url.Query

/-!
The address to which a user is sent to authorize a client.
-/

namespace ConfinedHttp.Oauth

/-- This function reads a URL that has an authority or a root.  The field names the input in
errors. -/
def absoluteUrl (field raw : String) : Except InputError Url :=
  match Url.parse raw with
  | .error cause => .error (.badUrl field cause)
  | .ok url => if url.isRootless then .error (.unusableBase field raw) else .ok url

/-- This function reads a URL and then its own text, which is what goes over the wire. -/
def normalizedUrl (field raw : String) : Except InputError Url :=
  match absoluteUrl field raw with
  | .error cause => .error cause
  | .ok url => (Url.parse url.text).mapError (.badUrl field)

/-- A request for a user's authorization. -/
structure AuthorizationRequest where
  endpoint : Url
  clientId : String
  state : String
  redirect : Url
  scopes : List String
  delimiter : Char
deriving DecidableEq, Repr

namespace AuthorizationRequest

/-- This function checks both URLs.  No scopes are asked for yet. -/
def make (endpoint clientId state redirect : String) : Except InputError AuthorizationRequest := do
  let endpoint ← normalizedUrl "authorization endpoint" endpoint
  let redirect ← normalizedUrl "redirect" redirect
  .ok ⟨endpoint, clientId, state, redirect, [], ' '⟩

/-- A scope has at least one character and no white space. -/
def isScope (scope : String) : Bool := !scope.isEmpty && !scope.toList.any isBlank

/-- This function sets the scopes.  The first that is not valid is reported. -/
def withScopes (request : AuthorizationRequest) (scopes : List String) :
    Except InputError AuthorizationRequest :=
  match scopes.find? (!isScope ·) with
  | some scope => .error (.badScope scope)
  | none => .ok { request with scopes }

def withDelimiter (request : AuthorizationRequest) (delimiter : Char) : AuthorizationRequest :=
  { request with delimiter }

/-- This function puts the delimiter between scopes. -/
def joinedScopes (request : AuthorizationRequest) : String :=
  (String.singleton request.delimiter).intercalate request.scopes

/-- The parameters of the request.  Without scopes there is no parameter for them. -/
def parameters (request : AuthorizationRequest) : List (String × String) :=
  [("response_type", "code"), ("client_id", request.clientId), ("state", request.state),
    ("redirect_uri", request.redirect.text)] ++
    (if request.scopes.isEmpty then [] else [("scope", request.joinedScopes)])

/-- This function adds the parameters to the endpoint. -/
def url (request : AuthorizationRequest) : Url := request.endpoint.appendPairs request.parameters

end AuthorizationRequest

/-- The records of making an address. -/
def addressObservations : List Observation :=
  [.span ⟨.authorizationUrl, "authorization_url"⟩, .count .authorizationUrl .success]

/-- The records of a request that was refused. -/
def refusalObservations : List Observation := [.count .authorizationUrl .rejected]

/-- This function makes the address in one go. -/
def authorizationUrl (endpoint clientId state : String) (scopes : List String) (redirect : String) :
    Except InputError Url := do
  let request ← AuthorizationRequest.make endpoint clientId state redirect
  let request ← request.withScopes scopes
  .ok request.url

end ConfinedHttp.Oauth
