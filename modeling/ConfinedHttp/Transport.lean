import ConfinedHttp.Error
import ConfinedHttp.Method
import ConfinedHttp.Multidict
import ConfinedHttp.Url.Basic

/-!
What a transport is given and what it answers.  The body of an answer arrives in pieces.
-/

namespace ConfinedHttp

/-- A request with an absolute URL and all its headers. -/
structure Outbound where
  method : Method
  url : Url
  headers : Multidict
  body : Option Bytes
deriving DecidableEq, Repr

/-- A body ends cleanly or because the network fails. -/
inductive Ending where
  | clean
  | broken (cause : Option String)
deriving DecidableEq, Repr

/-- The body of a response: the length that was announced, the pieces that arrive, and the end. -/
structure Body where
  declared : Option Nat
  chunks : List Bytes
  ending : Ending
deriving DecidableEq, Repr

/-- A response whose headers have arrived and whose body is still to be read. -/
structure ExchangeOf (Source : Type) where
  status : Nat
  headers : Multidict
  body : Source
deriving DecidableEq, Repr

/-- A transport yields an exchange, fails, leaves the request pending, or breaks down for good. -/
inductive AnswerOf (Source : Type) where
  | exchange (exchange : ExchangeOf Source)
  | failed (cause : Error)
  | pending
  | brokenDown
deriving DecidableEq, Repr

abbrev Exchange := ExchangeOf Body

abbrev Answer := AnswerOf Body

namespace Body

/-- A body that arrives in one piece. -/
def whole (bytes : Bytes) : Body := ⟨none, [bytes], .clean⟩

/-- This function gathers pieces as long as they stay within the limit. -/
def gather (limit : Nat) (gathered : Bytes) : List Bytes → Except TransportError Bytes
  | [] => .ok gathered
  | chunk :: rest =>
    if limit < gathered.length + chunk.length then .error (.bodyTooLarge limit)
    else gather limit (gathered ++ chunk) rest

/-- This function reads a body.  An announced length above the limit is refused before anything is
read. -/
def read (limit : Nat) (body : Body) : Except TransportError Bytes :=
  if body.declared.any (limit < ·) then .error (.bodyTooLarge limit)
  else do
    let bytes ← gather limit [] body.chunks
    match body.ending with
    | .clean => .ok bytes
    | .broken cause => .error (.network cause)

end Body

/-- A body can be read up to a limit.  Reading may fail with any error. -/
class Readable (Source : Type) where
  read : Nat → Source → Except Error Bytes

/-- The errors of a body that arrives in pieces are those of its transport. -/
instance : Readable Body where
  read limit body := (body.read limit).mapError .transport

/-- The statuses that report success. -/
def ExchangeOf.isSuccess {Source : Type} (exchange : ExchangeOf Source) : Bool :=
  200 ≤ exchange.status && exchange.status < 300

end ConfinedHttp
