import ConfinedHttp.Multidict.HeaderMap
import ConfinedHttp.Transport

/-!
The transport that speaks over a network.  It puts the headers into their form on the wire before
anything is sent.
-/

namespace ConfinedHttp

/-- A request in its form on the wire.  The target has no fragment. -/
structure WireRequest where
  method : Method
  target : String
  headers : HeaderMap
  body : Option Bytes
deriving DecidableEq, Repr

namespace Wire

/-- This function puts a request into its form on the wire. -/
def request (hash : String → Nat) (outbound : Outbound) : Except HeaderFailure WireRequest :=
  (outbound.headers.toHeaderMap hash).map fun headers =>
    { method := outbound.method
      target := ({ outbound.url with fragment := none } : Url).text
      headers
      body := outbound.body }

/-- This function sends a request over a link.  Headers that are not valid are the caller's fault,
and more headers than there is room for break the transport down. -/
def transport (hash : String → Nat) (link : WireRequest → Answer) (outbound : Outbound) : Answer :=
  match request hash outbound with
  | .ok wire => link wire
  | .error (.invalid name) => .failed (.input (.badHeader name))
  | .error .tooMany => .brokenDown

end Wire

end ConfinedHttp
