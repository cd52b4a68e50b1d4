import ConfinedHttp.Json.Decoder
import ConfinedHttp.Text.Blank
import ConfinedHttp.Transport

/-!
Responses as an add-on sees them, and what their bodies decode to.
-/

namespace ConfinedHttp

/-- A response and the greatest body that it may be decoded from. -/
structure Response where
  exchange : Exchange
  limit : Nat
deriving DecidableEq, Repr

/-- This function decodes a body that holds one JSON document and nothing else. -/
def decodeBody {α : Type} (status : Nat) (decoder : Json.Decoder α) (body : Bytes) :
    Except DecodeError α :=
  match decoder body with
  | .error failure => .error (.invalid failure (some status))
  | .ok parsed =>
    if (Json.skipGap parsed.rest).isEmpty then .ok parsed.value
    else .error (.trailingData (some status))

namespace Response

/-- The media type stands before the first parameter.  Its case does not matter. -/
def mediaType (declared : String) : List Char :=
  (trimEnds isBlank (declared.toList.takeWhile (· != ';'))).map Char.toLower

/-- This function tests for the media type of JSON and for those that are built on it. -/
def isJson (declared : String) : Bool :=
  mediaType declared == "application/json".toList || "+json".toList.isSuffixOf (mediaType declared)

/-- A response that declares another content type is refused. -/
def checkContentType (headers : Multidict) : Except DecodeError Unit :=
  match headers.getName? "content-type" with
  | some declared => if isJson declared then .ok () else .error (.notJson declared)
  | none => .ok ()

/-- This function tests whether decoding reads the body. -/
def readsBody (response : Response) : Bool :=
  match checkContentType response.exchange.headers with
  | .ok _ => true
  | .error _ => false

/-- This function reads and decodes the body. -/
def decode {α : Type} (decoder : Json.Decoder α) (response : Response) : Except Error α :=
  match checkContentType response.exchange.headers with
  | .error cause => .error (.decode cause)
  | .ok _ =>
    match response.exchange.body.read response.limit with
    | .error cause => .error (.transport cause)
    | .ok body => (decodeBody response.exchange.status decoder body).mapError .decode

/-- The outline shows the status and the headers. -/
def outline (response : Response) : Outline :=
  .record "ConstrainedResponse"
    [.field "status" (.ofNat response.exchange.status),
      .field "headers" response.exchange.headers.outline] true

end Response

end ConfinedHttp
