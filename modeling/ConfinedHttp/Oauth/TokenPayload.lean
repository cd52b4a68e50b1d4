import ConfinedHttp.Instant
import ConfinedHttp.Json.Decoder
import ConfinedHttp.Json.Outline
import ConfinedHttp.Secret

/-!
The payload of a token endpoint: the members that every provider uses, and all others as they are.
-/

namespace ConfinedHttp.Oauth

/-- A token with what belongs to it. -/
structure TokenPayload where
  accessToken : Secret
  tokenType : Option String
  refreshToken : Option Secret
  expiresIn : Option Int
  scope : Option String
  extra : List (String × Json.Value)

namespace TokenPayload

/-- The value of one member, read according to its key. -/
inductive Part where
  | accessToken (token : Secret)
  | tokenType (text : Option String)
  | refreshToken (token : Option Secret)
  | expiresIn (seconds : Option Int)
  | scope (text : Option String)
  | extra (value : Json.Value)

/-- The keys that every provider uses. -/
def knownKeys : List String :=
  ["access_token", "token_type", "refresh_token", "expires_in", "scope"]

/-- This function gathers members.  There is no payload without an access token. -/
def gather? (entries : List (String × Part)) : Option TokenPayload :=
  let parts := entries.map (·.2)
  (parts.findSome? fun | .accessToken token => some token | _ => none).map fun accessToken =>
    { accessToken
      tokenType := (parts.findSome? fun | .tokenType text => some text | _ => none).join
      refreshToken := (parts.findSome? fun | .refreshToken token => some token | _ => none).join
      expiresIn := (parts.findSome? fun | .expiresIn seconds => some seconds | _ => none).join
      scope := (parts.findSome? fun | .scope text => some text | _ => none).join
      extra := Json.members (entries.filterMap fun
        | (key, .extra value) => some (key, value)
        | _ => none) }

/-- The bounds of an integer of 64 bits with a sign. -/
def leastSeconds : Int := -9223372036854775808

def greatestSeconds : Int := 9223372036854775807

/-- This function decodes the member with the given key. -/
def partDecoder (key : String) : Json.Decoder Part :=
  if key = "access_token" then Json.Decoder.text.map fun text => .accessToken ⟨text⟩
  else if key = "token_type" then (Json.Decoder.optional Json.Decoder.text).map .tokenType
  else if key = "refresh_token" then
    (Json.Decoder.optional Json.Decoder.text).map fun text => .refreshToken (text.map Secret.mk)
  else if key = "expires_in" then
    (Json.Decoder.optional (Json.Decoder.integer leastSeconds greatestSeconds)).map .expiresIn
  else if key = "scope" then (Json.Decoder.optional Json.Decoder.text).map .scope
  else (Json.decodeValue (Json.greatestDepth - 1)).map .extra

/-- This function decodes a payload.  Only keys that are not known may repeat, and then the last
one counts. -/
def decoder : Json.Decoder TokenPayload :=
  (Json.Decoder.members (!knownKeys.contains ·) partDecoder).refine gather?

/-- This function reads a text that may be missing. -/
def optionalText? : Json.Value → Option (Option String)
  | .null => some none
  | .string text => some (some text)
  | _ => none

/-- This function reads the member with the given key from a value. -/
def partOf? (key : String) (value : Json.Value) : Option Part :=
  if key = "access_token" then
    match value with
    | .string text => some (.accessToken ⟨text⟩)
    | _ => none
  else if key = "token_type" then (optionalText? value).map .tokenType
  else if key = "refresh_token" then
    (optionalText? value).map fun text => .refreshToken (text.map Secret.mk)
  else if key = "expires_in" then
    match value with
    | .null => some (.expiresIn none)
    | .number (.integer seconds) =>
      if leastSeconds ≤ seconds ∧ seconds ≤ greatestSeconds then some (.expiresIn (some seconds))
      else none
    | _ => none
  else if key = "scope" then (optionalText? value).map .scope
  else some (.extra value)

/-- This function reads the members of an object in order.  A member that does not suit is named by
its key. -/
def partsOf : List (String × Json.Value) → Except Json.Failure (List (String × Part))
  | [] => .ok []
  | (key, value) :: rest =>
    match partOf? key value with
    | some part => (partsOf rest).map ((key, part) :: ·)
    | none => .error ⟨.unsuitable, [.member key]⟩

/-- This function reads a payload from a value. -/
def ofJson (value : Json.Value) : Except Json.Failure TokenPayload :=
  match value with
  | .object members => do
    match gather? (← partsOf members) with
    | some payload => .ok payload
    | none => .error ⟨.unsuitable, []⟩
  | _ => .error ⟨.unsuitable, []⟩

/-- This function writes a text that may be missing. -/
def textJson : Option String → Json.Value
  | some text => .string text
  | none => .null

/-- This function writes the known members in a fixed order and the others behind them. -/
def toJson (payload : TokenPayload) : Json.Value :=
  .object
    ([("access_token", .string payload.accessToken.expose),
      ("token_type", textJson payload.tokenType),
      ("refresh_token", textJson (payload.refreshToken.map Secret.expose)),
      ("expires_in", match payload.expiresIn with
        | some seconds => .number (.integer seconds)
        | none => .null),
      ("scope", textJson payload.scope)] ++ payload.extra)

/-- This function puts the members of the written payload in the order of their keys. -/
def toSortedJson (payload : TokenPayload) : Json.Value :=
  match payload.toJson with
  | .object members => .object (Json.members members)
  | other => other

/-- This function tests whether reading what was written gives the payload again. -/
def readsBack (payload : TokenPayload) : Bool :=
  match ofJson payload.toSortedJson with
  | .ok again => again.toJson.text == payload.toJson.text
  | .error _ => false

/-- This function finds when a token given out at an instant expires.  There is no result without a
lifetime, and the inner result is missing beyond the years that can be written. -/
def expiresAt (payload : TokenPayload) (issued : Instant) : Option (Option Instant) :=
  payload.expiresIn.map issued.add?

def outline (payload : TokenPayload) : Outline :=
  .record "TokenPayload"
    [.field "access_token" payload.accessToken.outline,
      .field "token_type" (.ofOption .ofText payload.tokenType),
      .field "refresh_token" (.ofOption Secret.outline payload.refreshToken),
      .field "expires_in" (.ofOption (fun seconds => .atom (toString seconds)) payload.expiresIn),
      .field "scope" (.ofOption .ofText payload.scope),
      .field "extra" (.set (Json.outlineMembers payload.extra))] false

end TokenPayload

end ConfinedHttp.Oauth
