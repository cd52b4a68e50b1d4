import ConfinedHttp.Json.Failure
import ConfinedHttp.Text.Ascii
import ConfinedHttp.Url.Error

/-!
Everything that can go wrong, by cause, and the sentence for each cause.
-/

namespace ConfinedHttp

/-- What the caller handed over cannot be used. -/
inductive InputError where
  | unsupportedShape (reason : String)
  | badUrl (field : String) (cause : UrlError)
  | unusableBase (field : String) (url : String)
  | noFlags
  | unknownBits (bits : UInt32)
  | badHeader (name : String)
  | badScope (scope : String)
deriving DecidableEq, Repr

/-- A path tried to leave its prefix. -/
inductive Violation where
  | foreignOrigin (path : String)
  | absolutePath (path : String)
  | escapesPrefix (path : String)
deriving DecidableEq, Repr

/-- The body of a response could not be decoded. -/
inductive DecodeError where
  | notJson (contentType : String)
  | invalid (failure : Json.Failure) (status : Option Nat)
  | trailingData (status : Option Nat)
deriving DecidableEq, Repr

/-- A request could not be carried.  The text of the cause is known only to some transports. -/
inductive TransportError where
  | network (cause : Option String)
  | bodyTooLarge (limit : Nat)
deriving DecidableEq, Repr

/-- Any failure of an operation. -/
inductive Error where
  | input (cause : InputError)
  | containment (cause : Violation)
  | refused (status : Nat) (body : String)
  | decode (cause : DecodeError)
  | transport (cause : TransportError)
deriving DecidableEq, Repr

namespace InputError

def message : InputError → String
  | unsupportedShape reason => "Unsupported input shape: " ++ reason ++ "."
  | badUrl field _ => "The " ++ field ++ " URL is invalid."
  | unusableBase field url =>
    "The " ++ field ++
      " URL must be an absolute hierarchical URL without query or fragment: " ++ url ++ "."
  | noFlags => "At least one capability flag is required."
  | unknownBits bits =>
    "Capability mask contains unknown bits: 0x" ++ String.ofList (Ascii.hexDigits bits.toNat) ++ "."
  | badHeader name => "Header `" ++ name ++ "` is not a valid HTTP header."
  | badScope scope => "Scope `" ++ scope ++ "` is invalid."

end InputError

namespace Violation

/-- The path that was refused. -/
def path : Violation → String
  | foreignOrigin path => path
  | absolutePath path => path
  | escapesPrefix path => path

/-- No sentence names the prefix. -/
def message : Violation → String
  | foreignOrigin path => "Path `" ++ path ++ "` must not name a scheme or host."
  | absolutePath path => "Path `" ++ path ++ "` must be relative to the configured prefix."
  | escapesPrefix path => "Path `" ++ path ++ "` resolves outside the configured prefix."

end Violation

namespace DecodeError

def message : DecodeError → String
  | notJson contentType => "Response content type `" ++ contentType ++ "` is not JSON."
  | invalid _ _ => "Response body is not valid JSON."
  | trailingData _ => "Response body has trailing data after the JSON document."

end DecodeError

namespace TransportError

def message : TransportError → String
  | network _ => "Network error occurred while calling the upstream service."
  | bodyTooLarge limit => "Response body exceeds the " ++ toString limit ++ "-byte limit."

end TransportError

namespace Error

def message : Error → String
  | input cause => cause.message
  | containment cause => cause.message
  | refused status _ => "Upstream endpoint returned HTTP " ++ toString status ++ "."
  | decode cause => cause.message
  | transport cause => cause.message

end Error

end ConfinedHttp
