import ConfinedHttp.Credentials
import ConfinedHttp.Observation
import ConfinedHttp.Prefix
import ConfinedHttp.Request
import ConfinedHttp.Response
import ConfinedHttp.Url.Query

/-!
Requestors send the requests of an add-on below a prefix and sign them with the credentials of the
host.
-/

namespace ConfinedHttp

/-- What one requestor is made of.  Nothing of it but the limit shows in what an add-on gets. -/
structure Requestor where
  confines : Prefix
  credentials : Credentials
  limit : Nat
deriving DecidableEq

/-- The greatest body that is read when the host sets no limit. -/
def defaultLimit : Nat := 16 * 1024 * 1024

/-- What happens to the exchange of a call: the transport yields it, its body is read, and it is
given back.  An exchange is known by the number of its call. -/
inductive ExchangeEvent where
  | opened (call : Nat)
  | read (call : Nat)
  | released (call : Nat)
deriving DecidableEq, Repr

/-- How a call ends: it is dropped before it starts or while it waits, the transport breaks down,
or it completes. -/
inductive Completion (α : Type) where
  | unpolled
  | cancelled
  | brokenDown
  | finished (result : Except Error α)

/-- Everything that one call does. -/
structure Trace (α : Type) where
  completion : Completion α
  sent : List Outbound
  exchanges : List ExchangeEvent
  observations : List Observation

namespace Requestor

/-- This function checks the prefix and makes a requestor. -/
def make (confines : String) (credentials : Credentials) (limit : Nat) :
    Except InputError Requestor :=
  (Prefix.parse "requestor prefix" confines).map fun confines => ⟨confines, credentials, limit⟩

/-- This function turns a request into what the transport is given. -/
def prepare (requestor : Requestor) (request : Request) : Except Violation Outbound :=
  (requestor.confines.resolve request.path).map fun url =>
    { method := request.method
      url := if request.query.isEmpty then url else url.appendPairs request.query.pairs
      headers := requestor.credentials.sign request.headers
      body := request.body }

/-- The span of a send is named after the method. -/
def span (request : Request) : Span := ⟨.send, request.method.name⟩

/-- The records of every send, before anything is done. -/
def startObservations (request : Request) : List Observation :=
  [.span (span request), .count .send .attempt]

/-- This function sends a request.  A call that is never polled records that it was made and does
nothing else. -/
def send (requestor : Requestor) (call : Nat) (polled : Bool) (transport : Outbound → Answer)
    (request : Request) : Trace Response :=
  let start := startObservations request
  if polled then
    match requestor.prepare request with
    | .error cause =>
      ⟨.finished (.error (.containment cause)), [], [],
        start ++ [.warning cause (span request), .count .send .rejected]⟩
    | .ok outbound =>
      match transport outbound with
      | .pending => ⟨.cancelled, [outbound], [.opened call, .released call], start⟩
      | .brokenDown => ⟨.brokenDown, [outbound], [], start⟩
      | .failed cause =>
        ⟨.finished (.error cause), [outbound], [],
          start ++ [.count .send (Outcome.of (.error cause : Except Error Response))]⟩
      | .exchange exchange =>
        ⟨.finished (.ok ⟨exchange, requestor.limit⟩), [outbound], [.opened call],
          start ++ [.count .send .success]⟩
  else ⟨.unpolled, [], [], start⟩

/-- Nothing of a requestor is shown. -/
def outline (_ : Requestor) : Outline := .record "ConstrainedRequestor" [] true

/-- Of a requestor still to be made, the limit is shown. -/
def builderOutline (requestor : Requestor) : Outline :=
  .record "ConstrainedRequestorBuilder"
    [.field "max_body_bytes" (.ofNat requestor.limit)] true

end Requestor

end ConfinedHttp
