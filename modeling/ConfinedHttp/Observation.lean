import ConfinedHttp.Error
import ConfinedHttp.Text.Outline

/-!
What is recorded about each operation: a span around it, counts of its outcomes, and a warning when
a path is refused.
-/

namespace ConfinedHttp

inductive Operation where
  | send
  | authorizationUrl
  | tokenExchange
  | tokenRefresh
deriving DecidableEq, Repr

inductive Outcome where
  | attempt
  | success
  | rejected
  | failure
deriving DecidableEq, Repr

/-- The time that one call takes, with the name of what it does. -/
structure Span where
  operation : Operation
  stage : String
deriving DecidableEq, Repr

/-- One record.  A warning stands inside the span of its call. -/
inductive Observation where
  | span (opened : Span)
  | count (operation : Operation) (outcome : Outcome)
  | warning (cause : Violation) (current : Span)
deriving DecidableEq, Repr

namespace Operation

def all : List Operation := [send, authorizationUrl, tokenExchange, tokenRefresh]

def label : Operation → String
  | send => "send"
  | authorizationUrl => "authorization_url"
  | tokenExchange => "token_exchange"
  | tokenRefresh => "token_refresh"

def outline : Operation → Outline
  | send => .atom "Send"
  | authorizationUrl => .atom "AuthorizationUrl"
  | tokenExchange => .atom "TokenExchange"
  | tokenRefresh => .atom "TokenRefresh"

end Operation

namespace Outcome

def all : List Outcome := [attempt, success, rejected, failure]

def label : Outcome → String
  | attempt => "attempt"
  | success => "success"
  | rejected => "rejected"
  | failure => "failure"

def outline : Outcome → Outline
  | attempt => .atom "Attempt"
  | success => .atom "Success"
  | rejected => .atom "Rejected"
  | failure => .atom "Failure"

/-- What the caller or the path is to blame for is rejected, and every other error is a failure. -/
def of {α : Type} : Except Error α → Outcome
  | .ok _ => success
  | .error (.containment _) => rejected
  | .error (.input _) => rejected
  | .error _ => failure

end Outcome

namespace Span

def text (span : Span) : String :=
  "imp_sandbox.request operation=" ++ span.operation.label ++ " stage=" ++ span.stage

end Span

namespace Observation

/-- This function writes a record as one line. -/
def text : Observation → String
  | span opened => "span " ++ opened.text
  | count operation outcome =>
    "count imp_sandbox_request_total operation=" ++ operation.label ++ " outcome=" ++
      outcome.label ++ " +1"
  | warning cause current =>
    "event WARN message=Rejected request outside of the requestor prefix. violation=" ++
      cause.message ++ " in " ++ current.text

end Observation

end ConfinedHttp
