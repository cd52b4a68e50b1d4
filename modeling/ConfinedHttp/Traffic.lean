import ConfinedHttp.Oauth.TokenClient

/-!
Traffic: calls of every kind are made, polled in any order while others are under way, and dropped
before or after they are polled.
-/

namespace ConfinedHttp

/-- What a call gives to its caller. -/
inductive Yield where
  | response (response : Response)
  | token (payload : Json.Value)

/-- This function changes what a completed call gives. -/
def Completion.map {α β : Type} (change : α → β) : Completion α → Completion β
  | .unpolled => .unpolled
  | .cancelled => .cancelled
  | .brokenDown => .brokenDown
  | .finished result => .finished (result.map change)

/-- This function changes what a call gives and leaves all else that it does. -/
def Trace.map {α β : Type} (change : α → β) (trace : Trace α) : Trace β :=
  ⟨trace.completion.map change, trace.sent, trace.exchanges, trace.observations⟩

/-- A call with everything that it is given. -/
inductive Call where
  | send (requestor : Requestor) (request : Request)
  | exchangeCode (client : Oauth.TokenClient) (redirect code : String)
  | refresh (client : Oauth.TokenClient) (refreshToken : String)
deriving DecidableEq

namespace Call

def span : Call → Span
  | send _ request => Requestor.span request
  | exchangeCode _ _ _ => Oauth.TokenClient.exchangeSpan
  | refresh _ _ => Oauth.TokenClient.refreshSpan

/-- A send starts as soon as it is made.  The calls of a token client start with their first
poll. -/
def isEager : Call → Bool
  | send _ _ => true
  | _ => false

/-- What a call does when it is made. -/
def make (number : Nat) : Call → Trace Yield
  | send requestor request =>
    (requestor.send number false (fun _ => .pending) request).map .response
  | _ => ⟨.unpolled, [], [], []⟩

/-- Everything that a call has done when it is polled and the transport answers. -/
def poll (number : Nat) (transport : Outbound → Answer) : Call → Trace Yield
  | send requestor request => (requestor.send number true transport request).map .response
  | exchangeCode client redirect code =>
    (client.exchangeCode number transport redirect code).map .token
  | refresh client refreshToken => (client.refresh number transport refreshToken).map .token

end Call

/-- How far a call has come. -/
inductive Stage where
  | underWay
  | dropped
  | brokenDown
  | completed (result : Except Error Yield)

/-- A call that waits for its answer stays under way. -/
def Stage.after : Completion Yield → Stage
  | .unpolled => .underWay
  | .cancelled => .underWay
  | .brokenDown => .brokenDown
  | .finished result => .completed result

/-- A call that was made: whether it has started, what it has sent, and how far it has come. -/
structure Flight where
  call : Call
  started : Bool
  sent : List Outbound
  stage : Stage

/-- One move of those who make the calls. -/
inductive Move where
  | make (call : Call)
  | poll (number : Nat) (transport : Outbound → Answer)
  | drop (number : Nat)

/-- The calls made so far, by number, and the records of all of them in order. -/
structure Traffic where
  flights : List Flight
  log : List (Nat × Observation)

namespace Traffic

def start : Traffic := ⟨[], []⟩

/-- This function finds the records of one call. -/
def recordsOf (traffic : Traffic) (number : Nat) : List Observation :=
  (traffic.log.filter (·.1 == number)).map (·.2)

/-- This function makes a call under the next number. -/
def make (traffic : Traffic) (call : Call) : Traffic :=
  let number := traffic.flights.length
  let trace := call.make number
  { flights := traffic.flights ++
      [⟨call, call.isEager, trace.sent, Stage.after trace.completion⟩]
    log := traffic.log ++ trace.observations.map (number, ·) }

/-- This function goes on with a call.  What the call has already recorded is not recorded again. -/
def poll (traffic : Traffic) (number : Nat) (transport : Outbound → Answer) (call : Call) :
    Traffic :=
  let trace := call.poll number transport
  { flights := traffic.flights.set number
      ⟨call, true, trace.sent, Stage.after trace.completion⟩
    log := traffic.log ++
      (trace.observations.drop (traffic.recordsOf number).length).map (number, ·) }

/-- This function makes one move.  Only calls under way can be polled or dropped. -/
def step (traffic : Traffic) : Move → Traffic
  | .make call => traffic.make call
  | .poll number transport =>
    match traffic.flights[number]? with
    | some ⟨call, _, _, .underWay⟩ => traffic.poll number transport call
    | _ => traffic
  | .drop number =>
    match traffic.flights[number]? with
    | some ⟨call, started, sent, .underWay⟩ =>
      { traffic with flights := traffic.flights.set number ⟨call, started, sent, .dropped⟩ }
    | _ => traffic

/-- This function makes moves in order. -/
def run (traffic : Traffic) (moves : List Move) : Traffic := moves.foldl step traffic

end Traffic

end ConfinedHttp
