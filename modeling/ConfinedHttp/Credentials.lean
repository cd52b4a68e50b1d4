import ConfinedHttp.Multidict
import ConfinedHttp.Secret
import ConfinedHttp.Text.Base64

/-!
What signs a request, and the header that carries it.
-/

namespace ConfinedHttp

/-- What the host keeps for an account. -/
inductive Credentials where
  | absent
  | accessToken (token : Secret)
  | basic (username : String) (password : Secret)
  | apiKey (header : String) (value : Secret)
deriving DecidableEq

namespace Credentials

/-- This function gives the name and the value of the header that signs a request. -/
def header? : Credentials → Option (String × String)
  | absent => none
  | accessToken token => some ("Authorization", "Bearer " ++ token.expose)
  | basic username password =>
    let pair := username ++ ":" ++ password.expose
    some ("Authorization", "Basic " ++ String.ofList (Base64.encode (textBytes pair)))
  | apiKey header value => some (header, value.expose)

/-- This function signs headers.  It replaces every header of the same name. -/
def sign (credentials : Credentials) (headers : Multidict) : Multidict :=
  match credentials.header? with
  | some (name, value) => (headers.eraseName name).add name value
  | none => headers

/-- The outline shows the kind and a name, and nothing secret. -/
def outline : Credentials → Outline
  | absent => .atom "Credentials::None"
  | accessToken _ => .atom "Credentials::AccessToken(..)"
  | basic username _ =>
    .record "Credentials::Basic" [.field "username" (.ofText username)] true
  | apiKey header _ => .record "Credentials::ApiKey" [.field "header" (.ofText header)] true

end Credentials

end ConfinedHttp
