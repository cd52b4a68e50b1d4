import ConfinedHttp.Requestor

/-!
Sessions: an add-on sends requests through one requestor, holds some of the responses under names,
and later decodes them, looks at them or lets them go.
-/

namespace ConfinedHttp

/-- What is done with a response as soon as it arrives. -/
inductive Disposal (α : Type) where
  | keep (name : String)
  | release
  | decode (decoder : Json.Decoder α)

/-- One step of an add-on. -/
inductive Step (α : Type) where
  | send (request : Request) (polled : Bool) (transport : Outbound → Answer) (disposal : Disposal α)
  | decode (name : String) (decoder : Json.Decoder α)
  | view (name : String)
  | release (name : String)
  | describe

/-- What a response shows without its body. -/
structure View where
  status : Nat
  success : Bool
  headers : Multidict
  outline : Outline

/-- What a step gives back to the add-on. -/
inductive Reply (α : Type) where
  | unpolled
  | cancelled
  | brokenDown
  | failed (cause : Error)
  | arrived (view : View) (body : Option (Except Error α))
  | decoded (result : Except Error α)
  | viewed (view : View)
  | released (wasHeld : Bool)
  | notHeld
  | described (requestor builder : Outline)

/-- A response under the name that it is held by. -/
structure Held where
  name : String
  call : Nat
  response : Response

/-- The state of a session: the responses held, the requests sent, and what happened to their
exchanges. -/
structure Session where
  requestor : Requestor
  held : List Held
  sent : List Outbound
  exchanges : List ExchangeEvent
  observations : List Observation

/-- What one step adds to a session. -/
structure Progress (α : Type) where
  reply : Reply α
  session : Session

namespace Session

def start (requestor : Requestor) : Session := ⟨requestor, [], [], [], []⟩

/-- This function gives the number of the next call. -/
def nextCall (session : Session) : Nat := session.sent.length

/-- This function finds the response held by a name. -/
def find? (session : Session) (name : String) : Option Held :=
  session.held.find? (·.name == name)

/-- This function takes a name away from the response that it holds. -/
def without (session : Session) (name : String) : List Held :=
  session.held.filter (·.name != name)

/-- The events of letting a response go that was not decoded. -/
def releaseOf : Option Held → List ExchangeEvent
  | some held => [.released held.call]
  | none => []

/-- The events of decoding a response, which always gives the exchange back. -/
def decodeEvents (call : Nat) (response : Response) : List ExchangeEvent :=
  (if response.readsBody then [.read call] else []) ++ [.released call]

def viewOf (response : Response) : View :=
  ⟨response.exchange.status, response.exchange.isSuccess, response.exchange.headers,
    response.outline⟩

/-- This function adds a trace to a session. -/
def record {α : Type} (session : Session) (trace : Trace α) : Session :=
  { session with
    sent := session.sent ++ trace.sent
    exchanges := session.exchanges ++ trace.exchanges
    observations := session.observations ++ trace.observations }

/-- This function adds exchange events to a session. -/
def withEvents (session : Session) (events : List ExchangeEvent) : Session :=
  { session with exchanges := session.exchanges ++ events }

/-- This function disposes of a response that has just arrived.  A name that holds another response
lets it go. -/
def dispose {α : Type} (session : Session) (call : Nat) (response : Response) :
    Disposal α → Progress α
  | .keep name =>
    ⟨.arrived (viewOf response) none,
      { session.withEvents (releaseOf (session.find? name)) with
        held := session.without name ++ [⟨name, call, response⟩] }⟩
  | .release => ⟨.arrived (viewOf response) none, session.withEvents [.released call]⟩
  | .decode decoder =>
    ⟨.arrived (viewOf response) (some (response.decode decoder)),
      session.withEvents (decodeEvents call response)⟩

/-- This function performs one step. -/
def step {α : Type} (session : Session) : Step α → Progress α
  | .send request polled transport disposal =>
    let call := session.nextCall
    let trace := session.requestor.send call polled transport request
    let after := session.record trace
    match trace.completion with
    | .unpolled => ⟨.unpolled, after⟩
    | .cancelled => ⟨.cancelled, after⟩
    | .brokenDown => ⟨.brokenDown, after⟩
    | .finished (.error cause) => ⟨.failed cause, after⟩
    | .finished (.ok response) => after.dispose call response disposal
  | .decode name decoder =>
    match session.find? name with
    | none => ⟨.notHeld, session⟩
    | some held =>
      ⟨.decoded (held.response.decode decoder),
        { session.withEvents (decodeEvents held.call held.response) with
          held := session.without name }⟩
  | .view name =>
    match session.find? name with
    | none => ⟨.notHeld, session⟩
    | some held => ⟨.viewed (viewOf held.response), session⟩
  | .release name =>
    let found := session.find? name
    ⟨.released found.isSome,
      { session.withEvents (releaseOf found) with held := session.without name }⟩
  | .describe =>
    ⟨.described session.requestor.outline session.requestor.builderOutline, session⟩

/-- This function performs steps in order and gathers what they give back. -/
def run {α : Type} (session : Session) : List (Step α) → List (Reply α) × Session
  | [] => ([], session)
  | first :: rest =>
    let progress := session.step first
    let (replies, last) := progress.session.run rest
    (progress.reply :: replies, last)

end Session

/-- This function counts the exchanges that were not given back. -/
def liveExchanges (events : List ExchangeEvent) : Nat :=
  (events.filter fun event => event matches .opened _).length -
    (events.filter fun event => event matches .released _).length

end ConfinedHttp
