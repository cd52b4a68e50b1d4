import ConfinedHttp.Error
import ConfinedHttp.Text.Outline

/-!
The outline of an error, which shows every detail that its sentence leaves out.
-/

namespace ConfinedHttp

def UrlError.outline : UrlError → Outline
  | .emptyHost => .atom "EmptyHost"
  | .badDomain => .atom "IdnaError"
  | .badPort => .atom "InvalidPort"
  | .badIpv4 => .atom "InvalidIpv4Address"
  | .badIpv6 => .atom "InvalidIpv6Address"
  | .badHostCharacter => .atom "InvalidDomainCharacter"
  | .relativeWithoutBase => .atom "RelativeUrlWithoutBase"
  | .relativeToRootless => .atom "RelativeUrlWithCannotBeABaseBase"

def InputError.outline : InputError → Outline
  | .unsupportedShape reason => .record "UnsupportedShape" [.field "reason" (.ofText reason)] false
  | .badUrl field cause =>
    .record "InvalidUrl" [.field "field" (.ofText field), .field "source" cause.outline] false
  | .unusableBase field url =>
    .record "UnusableBase" [.field "field" (.ofText field), .field "url" (.ofText url)] false
  | .noFlags => .atom "EmptyFlagSet"
  | .unknownBits bits =>
    .record "UnknownCapabilityBits" [.field "bits" (.ofNat bits.toNat)] false
  | .badHeader name => .record "InvalidHeader" [.field "name" (.ofText name)] false
  | .badScope scope => .record "InvalidScope" [.field "scope" (.ofText scope)] false

def Violation.outline (cause : Violation) : Outline :=
  let kind := match cause with
    | .foreignOrigin _ => "ForeignOrigin"
    | .absolutePath _ => "AbsolutePath"
    | .escapesPrefix _ => "EscapesPrefix"
  .record kind [.field "path" (.ofText cause.path)] false

/-- The status of a response is shown where it is known. -/
def statusOutline (status : Option Nat) : Outline := .field "status" (.ofOption .ofNat status)

def DecodeError.outline : DecodeError → Outline
  | .notJson contentType =>
    .record "UnexpectedContentType" [.field "content_type" (.ofText contentType)] false
  | .invalid failure status =>
    .record "Json" [.field "path" (.ofText failure.pathText), statusOutline status] false
  | .trailingData status => .record "TrailingData" [statusOutline status] false

def TransportError.outline : TransportError → Outline
  | .network cause =>
    .record "Network"
      [.field "source" (.record "Custom"
        [.field "kind" (.atom "Other"), .field "error" (.ofText (cause.getD ""))] false)] false
  | .bodyTooLarge limit => .record "BodyTooLarge" [.field "limit" (.ofNat limit)] false

def Error.outline : Error → Outline
  | .input cause => .tuple "MalformedInput" [cause.outline]
  | .containment cause => .tuple "Containment" [cause.outline]
  | .refused status body =>
    .tuple "Upstream" [.record "UpstreamHttpError"
      [.field "status" (.ofNat status), .field "body" (.ofText body)] false]
  | .decode cause => .tuple "Decode" [cause.outline]
  | .transport cause => .tuple "Transport" [cause.outline]

end ConfinedHttp
