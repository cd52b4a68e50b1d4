import Mathlib.Algebra.BigOperators.Intervals
import ConfinedHttp.Proofs.SessionRun
import ConfinedHttp.Traffic

namespace ConfinedHttp

/-- Every error that a transport reports is its own. -/
def FailsOnlyInTransport (transport : Outbound → Answer) : Prop :=
  ∀ outbound cause, transport outbound = .failed cause → ∃ reason, cause = .transport reason

/-- The errors that the arguments of a call are to blame for. -/
def Error.isLocal : Error → Bool
  | input _ => true
  | containment _ => true
  | _ => false

/-- What a transport reports is not over the arguments of a call. -/
theorem FailsOnlyInTransport.isLocal {transport : Outbound → Answer}
    (fails : FailsOnlyInTransport transport) {outbound : Outbound} {cause : Error}
    (failed : transport outbound = .failed cause) : cause.isLocal = false := by
  obtain ⟨reason, rfl⟩ := fails outbound cause failed
  rfl

/-- Neither is what goes wrong while a body arrives. -/
theorem Body.isLocal_of_read {limit : Nat} {body : Body} {cause : Error}
    (unread : Readable.read limit body = .error cause) : cause.isLocal = false := by
  change (body.read limit).mapError .transport = .error cause at unread
  cases read : body.read limit with
  | error reason =>
    rw [read] at unread
    cases unread
    rfl
  | ok bytes =>
    rw [read] at unread
    cases unread

namespace Span

/-- The records that a call starts with. -/
def opening (span : Span) : List Observation := [.span span, .count span.operation .attempt]

/-- The warning of a completed call, if its path was refused. -/
def warnings {α : Type} (span : Span) : Except Error α → List Observation
  | .error (.containment cause) => [.warning cause span]
  | _ => []

/-- A warning is no count. -/
@[simp] theorem count_warnings {α : Type} (span : Span) (result : Except Error α)
    (operation : Operation) (outcome : Outcome) :
    (span.warnings result).count (.count operation outcome) = 0 := by
  rcases result with (_ | _ | _ | _ | _) | value <;> rfl

/-- Only the arguments of a call give a warning. -/
theorem warnings_of_not_isLocal {α : Type} (span : Span) {cause : Error}
    (remote : cause.isLocal = false) : span.warnings (.error cause : Except Error α) = [] := by
  cases cause with
  | containment cause => cases remote
  | _ => rfl

end Span

namespace Outcome

variable {α : Type}

/-- The last count of a call tells what its caller gets and whether the transport was called. -/
structure Tells (outcome : Outcome) (sent : List Outbound) (result : Except Error α) : Prop where
  final : outcome ≠ .attempt
  success : outcome = .success ↔ ∃ value, result = .ok value
  rejected : outcome = .rejected ↔ sent = []

/-- What a result counts as tells the truth when the errors over the arguments of a call are those
that keep it from sending. -/
theorem tells_of {sent : List Outbound} {result : Except Error α}
    (unsent : sent = [] ↔ ∃ cause, result = .error cause ∧ cause.isLocal) :
    (of result).Tells sent result where
  final := by rcases result with (_ | _ | _ | _ | _) | value <;> simp [of]
  success := by rcases result with (_ | _ | _ | _ | _) | value <;> simp [of]
  rejected := by
    rw [unsent]
    rcases result with (_ | _ | _ | _ | _) | value <;> simp [of, Error.isLocal]

end Outcome

/-- The law for the records of one call.  It starts with its span and one attempt.  Once it has
completed, a warning follows if its path was refused, and then one last count. -/
inductive Recorded {α : Type} (span : Span) (sent : List Outbound) :
    Option (Except Error α) → List Observation → Prop
  | unfinished : Recorded span sent none span.opening
  | finished (result : Except Error α) (outcome : Outcome) (tells : outcome.Tells sent result) :
      Recorded span sent (some result)
        (span.opening ++ (span.warnings result ++ [.count span.operation outcome]))

/-- The result of a call that has completed. -/
def Completion.result? {α : Type} : Completion α → Option (Except Error α)
  | .finished result => some result
  | _ => none

/-- The result of a call that has completed. -/
def Stage.result? : Stage → Option (Except Error Yield)
  | .completed result => some result
  | _ => none

@[simp] theorem Stage.result?_after (completion : Completion Yield) :
    (Stage.after completion).result? = completion.result? := by
  cases completion <;> rfl

namespace Trace

variable {α : Type}

/-- The records of a trace keep to the law. -/
def IsRecorded (trace : Trace α) (span : Span) : Prop :=
  Recorded span trace.sent trace.completion.result? trace.observations

/-- A trace that ends with the count of its result keeps to the law. -/
theorem isRecorded_finished (span : Span) (sent : List Outbound) (exchanges : List ExchangeEvent)
    (result : Except Error α)
    (unsent : sent = [] ↔ ∃ cause, result = .error cause ∧ cause.isLocal) :
    IsRecorded ⟨.finished result, sent, exchanges,
      span.opening ++ (span.warnings result ++ [.count span.operation (Outcome.of result)])⟩ span :=
  .finished result _ (Outcome.tells_of unsent)

end Trace

namespace Recorded

variable {α : Type} {span : Span} {sent : List Outbound} {result? : Option (Except Error α)}
  {records : List Observation}

/-- Every call starts with the same records. -/
theorem starts_opening (recorded : Recorded span sent result? records) :
    span.opening <+: records := by
  cases recorded with
  | unfinished => exact List.prefix_rfl
  | finished result outcome tells => exact List.prefix_append _ _

theorem of_none (recorded : Recorded span sent (none : Option (Except Error α)) records) :
    records = span.opening := by
  cases recorded
  rfl

/-- What a completed call gives may be changed. -/
theorem map {β : Type} (change : α → β) (recorded : Recorded span sent result? records) :
    Recorded span sent (result?.map (·.map change)) records := by
  cases recorded with
  | unfinished => exact .unfinished
  | finished result outcome tells =>
    have sameWarnings : span.warnings (result.map change) = span.warnings result := by
      rcases result with (_ | _ | _ | _ | _) | value <;> rfl
    have sameOk : (∃ value, result.map change = .ok value) ↔ ∃ value, result = .ok value := by
      cases result <;> simp [Except.map]
    rw [← sameWarnings]
    exact .finished _ outcome ⟨tells.final, tells.success.trans sameOk.symm, tells.rejected⟩

end Recorded

namespace Requestor

/-- A send keeps to the law, whether it is polled or not. -/
theorem isRecorded_send (requestor : Requestor) (call : Nat) (polled : Bool)
    {transport : Outbound → Answer} (fails : FailsOnlyInTransport transport) (request : Request) :
    (requestor.send call polled transport request).IsRecorded (span request) := by
  cases polled with
  | false => exact .unfinished
  | true =>
    cases prepared : requestor.prepare request with
    | error cause =>
      simp only [send, prepared, if_true]
      exact Trace.isRecorded_finished _ _ _ (.error (.containment cause)) (by simp [Error.isLocal])
    | ok outbound =>
      simp only [send, prepared, if_true]
      cases answered : transport outbound with
      | exchange exchange => exact Trace.isRecorded_finished _ _ _ (.ok _) (by simp)
      | failed cause =>
        have remote := fails.isLocal answered
        have finished := Trace.isRecorded_finished (span request) [outbound] []
          (.error cause : Except Error Response) (by simp [remote])
        rw [Span.warnings_of_not_isLocal _ remote] at finished
        exact finished
      | pending => exact .unfinished
      | brokenDown => exact .unfinished

end Requestor

namespace Oauth.TokenClient

/-- A call of a token client keeps to the law when its result tells whether a form was sent.  Paths
are never refused here. -/
theorem isRecorded_complete (span : Span) (sent : List Outbound) (exchanges : List ExchangeEvent)
    (result : Except Error Json.Value) (noPath : ∀ cause, result ≠ .error (.containment cause))
    (unsent : sent = [] ↔ ∃ cause, result = .error cause ∧ cause.isLocal) :
    (complete span sent exchanges result).IsRecorded span := by
  have noWarning : span.warnings result = [] := by
    rcases result with (_ | cause | _ | _ | _) | value
    case error.containment => exact absurd rfl (noPath cause)
    all_goals rfl
  have finished := Trace.isRecorded_finished span sent exchanges result unsent
  rw [noWarning] at finished
  exact finished

/-- Reading an answer fails over the answer alone. -/
theorem isLocal_of_readAnswer (client : TokenClient) (exchange : Exchange) {cause : Error}
    (failed : client.readAnswer exchange = .error cause) : cause.isLocal = false := by
  rw [readAnswer] at failed
  split at failed
  case isTrue =>
    split at failed
    case h_1 unread =>
      cases failed
      exact Body.isLocal_of_read unread
    case h_2 bytes read =>
      cases decoded : decodeBody exchange.status Json.Decoder.any bytes with
      | error reason =>
        rw [decoded] at failed
        cases failed
        rfl
      | ok value =>
        rw [decoded] at failed
        cases failed
  case isFalse =>
    cases failed
    rfl

theorem isRecorded_post (client : TokenClient) (call : Nat) (span : Span)
    {transport : Outbound → Answer} (fails : FailsOnlyInTransport transport) (form : Multidict) :
    (client.post call span transport form).IsRecorded span := by
  rw [post]
  cases answered : transport (client.prepare form) with
  | exchange exchange =>
    refine isRecorded_complete _ _ _ _ ?_ ?_
    · intro cause failed
      exact absurd (client.isLocal_of_readAnswer exchange failed) (by simp [Error.isLocal])
    · simp only [List.cons_ne_nil, false_iff, not_exists, not_and]
      intro cause failed
      simp [client.isLocal_of_readAnswer exchange failed]
  | failed cause =>
    have remote := fails.isLocal answered
    obtain ⟨reason, rfl⟩ := fails _ cause answered
    exact isRecorded_complete _ _ _ _ (by simp) (by simp [remote])
  | pending => exact .unfinished
  | brokenDown => exact .unfinished

theorem isRecorded_exchangeCode (client : TokenClient) (call : Nat)
    {transport : Outbound → Answer} (fails : FailsOnlyInTransport transport)
    (redirect code : String) :
    (client.exchangeCode call transport redirect code).IsRecorded exchangeSpan := by
  rw [exchangeCode]
  split
  · exact isRecorded_complete _ _ _ _ (by simp) (by simp [Error.isLocal])
  · exact client.isRecorded_post call exchangeSpan fails _

theorem isRecorded_refresh (client : TokenClient) (call : Nat) {transport : Outbound → Answer}
    (fails : FailsOnlyInTransport transport) (refreshToken : String) :
    (client.refresh call transport refreshToken).IsRecorded refreshSpan :=
  client.isRecorded_post call refreshSpan fails _

end Oauth.TokenClient

/-- Changing what a call gives leaves its records as they are. -/
theorem Trace.IsRecorded.map {α β : Type} {trace : Trace α} {span : Span} (change : α → β)
    (recorded : trace.IsRecorded span) : (trace.map change).IsRecorded span := by
  have sameResult : (trace.completion.map change).result? =
      trace.completion.result?.map (·.map change) := by
    cases trace.completion <;> rfl
  rw [IsRecorded, Trace.map, sameResult]
  exact Recorded.map change recorded

namespace Call

/-- A call keeps to the law whenever it is polled. -/
theorem isRecorded_poll (call : Call) (number : Nat) {transport : Outbound → Answer}
    (fails : FailsOnlyInTransport transport) :
    (call.poll number transport).IsRecorded call.span := by
  cases call with
  | send requestor request => exact (requestor.isRecorded_send number true fails request).map _
  | exchangeCode client redirect code =>
    exact (client.isRecorded_exchangeCode number fails redirect code).map _
  | refresh client refreshToken =>
    exact (client.isRecorded_refresh number fails refreshToken).map _

end Call

namespace Flight

/-- A call that has not started has recorded nothing, and every other keeps to the law. -/
def IsRecorded (flight : Flight) (records : List Observation) : Prop :=
  if flight.started then Recorded flight.call.span flight.sent flight.stage.result? records
  else records = [] ∧ flight.stage.result? = none

/-- A call without a result has recorded no more than every call starts with. -/
theorem IsRecorded.prefix_opening {flight : Flight} {records : List Observation}
    (kept : flight.IsRecorded records) (noResult : flight.stage.result? = none) :
    records <+: flight.call.span.opening := by
  rw [IsRecorded, noResult] at kept
  split at kept
  · rw [kept.of_none]
  · rw [kept.1]
    exact List.nil_prefix

/-- A call that has only been made keeps to the law. -/
theorem isRecorded_made (call : Call) (number : Nat) :
    IsRecorded ⟨call, call.isEager, (call.make number).sent, .after (call.make number).completion⟩
      (call.make number).observations := by
  cases call with
  | send requestor request => exact Recorded.unfinished
  | exchangeCode client redirect code => exact ⟨rfl, rfl⟩
  | refresh client refreshToken => exact ⟨rfl, rfl⟩

namespace IsRecorded

variable {flight : Flight} {records : List Observation}

end IsRecorded

end Flight

/-- What a step of a session records.  Neither its call number nor what becomes of a response shows
in that. -/
def Step.observations {α : Type} (requestor : Requestor) : Step α → List Observation
  | send request polled transport _ => (requestor.send 0 polled transport request).observations
  | _ => []

namespace Session

variable {α : Type}

end Session

namespace Traffic

variable {traffic : Traffic}

/-- Every record belongs to a call, and the records of every call keep to the law. -/
structure IsRecorded (traffic : Traffic) : Prop where
  numbered : ∀ entry ∈ traffic.log, entry.1 < traffic.flights.length
  recorded : ∀ (number : Nat) (flight : Flight), traffic.flights[number]? = some flight →
    flight.IsRecorded (traffic.recordsOf number)

/-- New records of one call leave the records of the others as they are. -/
theorem recordsOf_append (flights : List Flight) (number : Nat) (fresh : List Observation)
    (other : Nat) :
    recordsOf ⟨flights, traffic.log ++ fresh.map (number, ·)⟩ other =
      traffic.recordsOf other ++ if number = other then fresh else [] := by
  by_cases same : number = other <;>
    simp [recordsOf, List.filter_map, same, Function.comp_def]

/-- A call that was not made yet has recorded nothing. -/
theorem IsRecorded.recordsOf_eq_nil (kept : traffic.IsRecorded) {number : Nat}
    (unused : traffic.flights.length ≤ number) : traffic.recordsOf number = [] := by
  simp only [recordsOf, List.map_eq_nil_iff, List.filter_eq_nil_iff, beq_iff_eq]
  intro entry inside same
  have := kept.numbered entry inside
  omega

theorem IsRecorded.make (kept : traffic.IsRecorded) (call : Call) :
    (traffic.make call).IsRecorded where
  numbered := by
    simp only [Traffic.make, List.mem_append, List.mem_map, List.length_append,
      List.length_singleton]
    rintro entry (inside | ⟨observation, -, rfl⟩)
    · exact Nat.lt_succ_of_lt (kept.numbered entry inside)
    · exact Nat.lt_succ_self _
  recorded := by
    intro number flight found
    rw [Traffic.make, recordsOf_append]
    rw [Traffic.make, List.getElem?_append] at found
    split at found
    case isTrue old =>
      rw [if_neg (Nat.ne_of_gt old), List.append_nil]
      exact kept.recorded number flight found
    case isFalse fresh =>
      simp only [List.getElem?_singleton, Option.ite_none_right_eq_some, Option.some.injEq] at found
      obtain ⟨atEnd, rfl⟩ := found
      have last : traffic.flights.length = number := by omega
      rw [if_pos last, kept.recordsOf_eq_nil (Nat.le_of_eq last), List.nil_append]
      exact Flight.isRecorded_made call _

/-- One call may change and record more, as long as its own records keep to the law. -/
theorem IsRecorded.change (kept : traffic.IsRecorded) {number : Nat}
    (inside : number < traffic.flights.length) (next : Flight) (fresh : List Observation)
    (lawful : next.IsRecorded (traffic.recordsOf number ++ fresh)) :
    IsRecorded ⟨traffic.flights.set number next, traffic.log ++ fresh.map (number, ·)⟩ where
  numbered := by
    simp only [List.mem_append, List.mem_map, List.length_set]
    rintro entry (old | ⟨observation, -, rfl⟩)
    · exact kept.numbered entry old
    · exact inside
  recorded := by
    intro other flight found
    rw [recordsOf_append]
    by_cases same : number = other
    · subst same
      rw [List.getElem?_set_self inside, Option.some.injEq] at found
      rw [if_pos rfl, ← found]
      exact lawful
    · rw [List.getElem?_set_ne same] at found
      rw [if_neg same, List.append_nil]
      exact kept.recorded other flight found

theorem IsRecorded.poll (kept : traffic.IsRecorded) {number : Nat} {flight : Flight}
    (found : traffic.flights[number]? = some flight) (noResult : flight.stage.result? = none)
    {transport : Outbound → Answer} (fails : FailsOnlyInTransport transport) :
    (traffic.poll number transport flight.call).IsRecorded := by
  refine kept.change (List.getElem?_eq_some_iff.mp found).1 _ _ ?_
  have lawful := flight.call.isRecorded_poll number fails
  -- What was recorded before is at the front of the trace, whether the call had started or not.
  have begun := (kept.recorded number flight found).prefix_opening noResult
  rw [List.prefix_iff_eq_append.mp (begun.trans lawful.starts_opening)]
  simpa [Flight.IsRecorded, Trace.IsRecorded] using lawful

theorem IsRecorded.drop (kept : traffic.IsRecorded) {number : Nat} {flight : Flight}
    (found : traffic.flights[number]? = some flight) (noResult : flight.stage.result? = none) :
    IsRecorded { traffic with
      flights := traffic.flights.set number { flight with stage := .dropped } } := by
  have before := kept.recorded number flight found
  rw [Flight.IsRecorded, noResult, ← List.append_nil (traffic.recordsOf number)] at before
  have changed := kept.change (List.getElem?_eq_some_iff.mp found).1
    { flight with stage := .dropped } [] before
  rw [List.map_nil, List.append_nil] at changed
  exact changed

theorem IsRecorded.step (kept : traffic.IsRecorded) (move : Move)
    (fails : ∀ number transport, move = .poll number transport → FailsOnlyInTransport transport) :
    (traffic.step move).IsRecorded := by
  cases move with
  | make call => exact kept.make call
  | poll number transport =>
    simp only [Traffic.step]
    split
    case h_1 call started sent found => exact kept.poll found rfl (fails number transport rfl)
    case h_2 => exact kept
  | drop number =>
    simp only [Traffic.step]
    split
    case h_1 call started sent found => exact kept.drop found rfl
    case h_2 => exact kept

theorem IsRecorded.run (kept : traffic.IsRecorded) (moves : List Move)
    (fails : ∀ number transport, .poll number transport ∈ moves → FailsOnlyInTransport transport) :
    (traffic.run moves).IsRecorded := by
  induction moves generalizing traffic with
  | nil => exact kept
  | cons first rest inductionHypothesis =>
    refine inductionHypothesis (kept.step first ?_) ?_
    · rintro number transport rfl
      exact fails number transport (List.mem_cons_self ..)
    · intro number transport inside
      exact fails number transport (List.mem_cons_of_mem _ inside)

end Traffic

end ConfinedHttp
