import ConfinedHttp.Session

namespace ConfinedHttp

namespace Requestor

/-- What a request is turned into has the URL that its path resolves to, with its own pairs behind
the query, and signed headers. -/
theorem exists_of_prepare_eq_ok (requestor : Requestor) (request : Request) (outbound : Outbound)
    (prepared : requestor.prepare request = .ok outbound) :
    ∃ url, requestor.confines.resolve request.path = .ok url ∧
      outbound =
        { method := request.method
          url := if request.query.isEmpty then url else url.appendPairs request.query.pairs
          headers := requestor.credentials.sign request.headers
          body := request.body } := by
  rw [prepare] at prepared
  cases resolved : requestor.confines.resolve request.path with
  | error cause =>
    rw [resolved] at prepared
    cases prepared
  | ok url =>
    rw [resolved] at prepared
    exact ⟨url, rfl, (Except.ok.inj prepared).symm⟩

/-- The requests that a call hands the transport: one if the call is polled and its path is not
refused. -/
def handed (requestor : Requestor) (polled : Bool) (request : Request) : List Outbound :=
  if polled then (requestor.prepare request).toOption.toList else []

/-- Whatever the transport answers, it is called for what the request was turned into and for
nothing else. -/
theorem sent_send (requestor : Requestor) (call : Nat) (polled : Bool)
    (transport : Outbound → Answer) (request : Request) :
    (requestor.send call polled transport request).sent = requestor.handed polled request := by
  cases polled with
  | false => rfl
  | true =>
    cases prepared : requestor.prepare request with
    | error cause => simp [send, handed, prepared, Except.toOption]
    | ok outbound =>
      simp only [send, handed, prepared, if_true]
      split <;> rfl

theorem mem_handed_iff (requestor : Requestor) (polled : Bool) (request : Request)
    (outbound : Outbound) :
    outbound ∈ requestor.handed polled request ↔
      polled = true ∧ requestor.prepare request = .ok outbound := by
  rw [handed]
  cases polled with
  | false => simp
  | true => cases prepared : requestor.prepare request <;> simp [Except.toOption, eq_comm]

/-- A request whose path is refused comes back with the refusal, and the transport is not called. -/
theorem send_of_refused (requestor : Requestor) (call : Nat) (transport : Outbound → Answer)
    (request : Request) (cause : Violation)
    (refused : requestor.confines.resolve request.path = .error cause) :
    (requestor.send call true transport request).completion =
        .finished (.error (.containment cause)) ∧
      ∀ polled, (requestor.send call polled transport request).sent = [] ∧
        (requestor.send call polled transport request).exchanges = [] := by
  have notPrepared : requestor.prepare request = .error cause := by
    simp [prepare, refused, Except.map]
  refine ⟨by simp [send, notPrepared], fun polled => ?_⟩
  cases polled <;> simp [send, notPrepared]

end Requestor

/-- The requests that a step hands the transport. -/
def Step.handed {α : Type} (requestor : Requestor) : Step α → List Outbound
  | send request polled _ _ => requestor.handed polled request
  | _ => []

namespace Session

variable {α : Type}

@[simp] theorem requestor_record (session : Session) (trace : Trace α) :
    (session.record trace).requestor = session.requestor := rfl

@[simp] theorem sent_record (session : Session) (trace : Trace α) :
    (session.record trace).sent = session.sent ++ trace.sent := rfl

@[simp] theorem requestor_dispose (session : Session) (call : Nat) (response : Response)
    (disposal : Disposal α) :
    (session.dispose call response disposal).session.requestor = session.requestor := by
  cases disposal <;> rfl

@[simp] theorem sent_dispose (session : Session) (call : Nat) (response : Response)
    (disposal : Disposal α) :
    (session.dispose call response disposal).session.sent = session.sent := by
  cases disposal <;> rfl

/-- A step hands on what its call hands on, whatever becomes of the response. -/
theorem sent_step (session : Session) (next : Step α) :
    (session.step next).session.sent = session.sent ++ next.handed session.requestor := by
  cases next with
  | send request polled transport disposal =>
    rw [Step.handed, ← Requestor.sent_send _ session.nextCall polled transport]
    simp only [step]
    split <;> simp
  | decode name decoder =>
    simp only [step]
    split <;> simp [Step.handed, withEvents]
  | view name =>
    simp only [step]
    split <;> simp [Step.handed]
  | release name => simp [step, Step.handed, withEvents]
  | describe => simp [step, Step.handed]

/-- A send whose path is refused says so when it is polled, and leaves the transport alone. -/
theorem step_of_refused (session : Session) (request : Request) (cause : Violation)
    (refused : session.requestor.confines.resolve request.path = .error cause)
    (transport : Outbound → Answer) (disposal : Disposal α) :
    (session.step (.send request true transport disposal)).reply = .failed (.containment cause) ∧
      ∀ polled,
        let after := (session.step (.send request polled transport disposal)).session
        after.sent = session.sent ∧ after.exchanges = session.exchanges := by
  obtain ⟨completion, quiet⟩ :=
    session.requestor.send_of_refused session.nextCall transport request cause refused
  refine ⟨by simp [step, completion], fun polled => ?_⟩
  obtain ⟨noSent, noExchanges⟩ := quiet polled
  refine ⟨?_, ?_⟩
  · rw [sent_step, Step.handed, ← Requestor.sent_send, noSent, List.append_nil]
  cases polled with
  | false => simp [step, Requestor.send, record]
  | true => simp [step, completion, record, noExchanges]

/-- No step changes the requestor. -/
@[simp] theorem requestor_step (session : Session) (next : Step α) :
    (session.step next).session.requestor = session.requestor := by
  cases next with
  | send request polled transport disposal =>
    simp only [step]
    split <;> simp
  | decode name decoder =>
    simp only [step]
    split <;> rfl
  | view name =>
    simp only [step]
    split <;> rfl
  | release name => rfl
  | describe => rfl

/-- No run changes the requestor. -/
@[simp] theorem requestor_run (session : Session) (steps : List (Step α)) :
    (session.run steps).2.requestor = session.requestor := by
  induction steps generalizing session with
  | nil => rfl
  | cons first rest inductionHypothesis =>
    simp only [run]
    rw [inductionHypothesis, requestor_step]

/-- A run hands on what its steps hand on, in order. -/
theorem sent_run (session : Session) (steps : List (Step α)) :
    (session.run steps).2.sent =
      session.sent ++ steps.flatMap (Step.handed session.requestor) := by
  induction steps generalizing session with
  | nil => simp [run]
  | cons first rest inductionHypothesis =>
    simp only [run]
    rw [inductionHypothesis, sent_step, requestor_step, List.append_assoc, List.flatMap_cons]

/-- A run hands on nothing but what the requestor made of requests. -/
theorem mem_sent_run (session : Session) (steps : List (Step α)) (outbound : Outbound)
    (isSent : outbound ∈ (session.run steps).2.sent) :
    outbound ∈ session.sent ∨ ∃ request, session.requestor.prepare request = .ok outbound := by
  rw [sent_run, List.mem_append, List.mem_flatMap] at isSent
  refine isSent.imp_right ?_
  rintro ⟨next, -, isHanded⟩
  cases next with
  | send request polled transport disposal =>
    exact ⟨request, (session.requestor.mem_handed_iff polled request outbound).mp isHanded |>.2⟩
  | decode name decoder => cases isHanded
  | view name => cases isHanded
  | release name => cases isHanded
  | describe => cases isHanded

end Session

end ConfinedHttp
