import ConfinedHttp.Proofs.ExchangeLedger
import ConfinedHttp.Proofs.SessionRun

namespace ConfinedHttp

/-- A transport yields an exchange at once, or holds one for a request that still waits. -/
def Answer.yields : Answer → Bool
  | .exchange _ => true
  | .pending => true
  | _ => false

namespace Requestor

/-- A call obtains an exchange when the transport yields one for what the call hands on. -/
def obtains (requestor : Requestor) (polled : Bool) (transport : Outbound → Answer)
    (request : Request) : Bool :=
  (requestor.handed polled request).any fun outbound => (transport outbound).yields

/-- What a call does with its exchange: it obtains none, gives it back when it is dropped, or leaves
it open in a response. -/
inductive ExchangeUse (call : Nat) : Bool → Trace Response → Prop where
  | none (completion : Completion Response) (sent : List Outbound)
      (observations : List Observation)
      (noResponse : ∀ response, completion ≠ .finished (.ok response)) :
      ExchangeUse call false ⟨completion, sent, [], observations⟩
  | dropped (outbound : Outbound) (observations : List Observation) :
      ExchangeUse call true
        ⟨.cancelled, [outbound], [.opened call, .released call], observations⟩
  | answered (response : Response) (outbound : Outbound) (observations : List Observation) :
      ExchangeUse call true
        ⟨.finished (.ok response), [outbound], [.opened call], observations⟩

theorem exchangeUse_send (requestor : Requestor) (call : Nat) (polled : Bool)
    (transport : Outbound → Answer) (request : Request) :
    ExchangeUse call (requestor.obtains polled transport request)
      (requestor.send call polled transport request) := by
  cases polled with
  | false => exact .none _ _ _ (by simp)
  | true =>
    cases prepared : requestor.prepare request with
    | error cause =>
      simp only [obtains, handed, send, prepared, if_true]
      exact .none _ _ _ (by simp)
    | ok outbound =>
      simp only [obtains, handed, send, prepared, if_true, Except.toOption, Option.toList_some,
        List.any_cons, List.any_nil, Bool.or_false]
      cases transport outbound with
      | exchange exchange => exact .answered ..
      | failed cause => exact .none (.finished (.error cause)) _ _ (by simp)
      | pending => exact .dropped ..
      | brokenDown => exact .none .brokenDown _ _ (by simp)

end Requestor

namespace Step

variable {α : Type}

/-- A step reaches the transport when it is a send that is polled and whose path resolves. -/
def reaches (requestor : Requestor) : Step α → Bool
  | send request polled _ _ => polled && (requestor.confines.resolve request.path).isOk
  | _ => false

/-- A step obtains an exchange when it is a send whose call obtains one. -/
def obtains (requestor : Requestor) : Step α → Bool
  | send request polled transport _ => requestor.obtains polled transport request
  | _ => false

theorem length_handed (requestor : Requestor) (next : Step α) :
    (next.handed requestor).length = if next.reaches requestor then 1 else 0 := by
  cases next with
  | send request polled transport disposal =>
    cases polled with
    | false => rfl
    | true =>
      cases resolved : requestor.confines.resolve request.path <;>
        simp [handed, Requestor.handed, reaches, Requestor.prepare, resolved, Except.map,
          Except.toOption, Except.isOk, Except.toBool]
  | decode name decoder => rfl
  | view name => rfl
  | release name => rfl
  | describe => rfl

end Step

namespace Session

variable {α : Type}

/-- Letting a name go takes the response that it holds out of those held, and no other. -/
theorem held_perm (session : Session) (names : (session.held.map (·.name)).Nodup) (name : String) :
    session.held.Perm ((session.find? name).toList ++ session.without name) := by
  rw [find?, without]
  generalize session.held = held at names
  induction held with
  | nil => exact List.Perm.refl _
  | cons first rest inductionHypothesis =>
    rw [List.map_cons, List.nodup_cons] at names
    by_cases same : first.name = name
    · have noOther : rest.filter (·.name != name) = rest := by
        rw [List.filter_eq_self]
        intro other inside
        have different : other.name ≠ name := fun equal =>
          names.1 (List.mem_map.mpr ⟨other, inside, equal.trans same.symm⟩)
        simpa using different
      simp [same, noOther]
    · have first? : (first.name == name) = false := by simpa using same
      rw [List.find?_cons_of_neg (by simp [same]), List.filter_cons_of_pos (by simp [same])]
      exact ((inductionHypothesis names.2).cons first).trans List.perm_middle.symm

/-- The books of a session balance.  The calls in hand have an open exchange too. -/
structure Accounts (session : Session) (inHand : List Nat) : Prop where
  names : (session.held.map (·.name)).Nodup
  balanced : Balanced (inHand ++ session.held.map (·.call)) session.sent.length session.exchanges

theorem accounts_start (requestor : Requestor) : (start requestor).Accounts [] :=
  ⟨List.nodup_nil, Balanced.start⟩

variable {session : Session} {inHand : List Nat}

/-- The names that stay held are still different. -/
theorem Accounts.names_without (accounts : session.Accounts inHand) (name : String) :
    ((session.without name).map (·.name)).Nodup :=
  accounts.names.sublist (List.filter_sublist.map _)

/-- A held response may come to its end. -/
theorem Accounts.letGo (accounts : session.Accounts inHand) (name : String) (held : Held)
    (found : session.find? name = some held) {events : List ExchangeEvent}
    (ends : EndsExchange held.call events) :
    Accounts { session.withEvents events with held := session.without name } inHand where
  names := accounts.names_without name
  balanced := by
    have parted := (session.held_perm accounts.names name).map (·.call)
    rw [found] at parted
    have reordered : (inHand ++ session.held.map (·.call)).Perm
        (held.call :: (inHand ++ (session.without name).map (·.call))) :=
      (parted.append_left inHand).trans List.perm_middle
    exact (accounts.balanced.perm reordered).ending ends

/-- A name that holds nothing may be let go. -/
theorem Accounts.release (accounts : session.Accounts inHand) (name : String) :
    Accounts { session.withEvents (releaseOf (session.find? name)) with
      held := session.without name } inHand := by
  cases found : session.find? name with
  | none =>
    have same : session.without name = session.held := by
      simpa [find?, without] using found
    rw [same]
    exact ⟨accounts.names, by simpa [releaseOf, withEvents] using accounts.balanced⟩
  | some held => exact accounts.letGo name held found .unread

theorem endsExchange_decodeEvents (call : Nat) (response : Response) :
    EndsExchange call (decodeEvents call response) := by
  rw [decodeEvents]
  split
  · exact .read
  · exact .unread

/-- A response that was not held may come to its end. -/
theorem Accounts.endInHand {call : Nat} (accounts : session.Accounts [call])
    {events : List ExchangeEvent} (ends : EndsExchange call events) :
    (session.withEvents events).Accounts [] :=
  ⟨accounts.names, accounts.balanced.ending ends⟩

/-- Disposing of a response that has just arrived leaves nothing in hand. -/
theorem Accounts.dispose {call : Nat} (accounts : session.Accounts [call]) (response : Response)
    (disposal : Disposal α) : (session.dispose call response disposal).session.Accounts [] := by
  cases disposal with
  | keep name =>
    have free := accounts.release name
    let arrived : Held := ⟨name, call, response⟩
    have atFront : (session.without name ++ [arrived]).Perm (arrived :: session.without name) :=
      List.perm_append_singleton _ _
    have fresh : name ∉ (session.without name).map (·.name) := by
      simp [without]
    exact {
      names := (atFront.map Held.name).nodup_iff.mpr (List.nodup_cons.mpr ⟨fresh, free.names⟩)
      balanced := free.balanced.perm (atFront.map Held.call).symm }
  | release => exact accounts.endInHand .unread
  | decode decoder => exact accounts.endInHand (endsExchange_decodeEvents call response)

/-- A send leaves nothing in hand, however its call ends. -/
theorem Accounts.send (accounts : session.Accounts []) (request : Request) (polled : Bool)
    (transport : Outbound → Answer) (disposal : Disposal α) :
    (session.step (.send request polled transport disposal)).session.Accounts [] := by
  have balanced : Balanced (session.held.map (·.call)) session.sent.length session.exchanges :=
    accounts.balanced
  have use := session.requestor.exchangeUse_send session.nextCall polled transport request
  simp only [step]
  generalize session.requestor.send session.nextCall polled transport request = trace,
    session.requestor.obtains polled transport request = isObtained at use
  cases use with
  | none completion sent observations noResponse =>
    have after : (session.record ⟨completion, sent, [], observations⟩).Accounts [] :=
      ⟨accounts.names, by simpa [record] using balanced.skip (Nat.le_add_right ..)⟩
    split
    case h_5 response arrives => exact absurd arrives (noResponse response)
    all_goals exact after
  | dropped outbound observations =>
    refine ⟨accounts.names, ?_⟩
    simpa [record, nextCall] using balanced.opening.ending .unread
  | answered response outbound observations =>
    have arrived : (session.record ⟨.finished (.ok response), [outbound],
        [.opened session.nextCall], observations⟩).Accounts [session.nextCall] :=
      ⟨accounts.names, by simpa [record, nextCall] using balanced.opening⟩
    exact arrived.dispose response disposal

/-- A step keeps the books balanced. -/
theorem Accounts.step (accounts : session.Accounts []) (next : Step α) :
    (session.step next).session.Accounts [] := by
  cases next with
  | send request polled transport disposal => exact accounts.send request polled transport disposal
  | decode name decoder =>
    simp only [Session.step]
    split
    case h_1 => exact accounts
    case h_2 held found => exact accounts.letGo name held found (endsExchange_decodeEvents _ _)
  | view name =>
    simp only [Session.step]
    split <;> exact accounts
  | release name => exact accounts.release name
  | describe => exact accounts

/-- A run keeps the books balanced. -/
theorem Accounts.run (accounts : session.Accounts []) (steps : List (Step α)) :
    (session.run steps).2.Accounts [] := by
  induction steps generalizing session with
  | nil => exact accounts
  | cons first rest inductionHypothesis => exact inductionHypothesis (accounts.step first)

/-- Letting go and decoding open nothing. -/
theorem countP_isOpening_releaseOf (found : Option Held) :
    (releaseOf found).countP ExchangeEvent.isOpening = 0 := by
  cases found <;> rfl

theorem countP_isOpening_decodeEvents (call : Nat) (response : Response) :
    (decodeEvents call response).countP ExchangeEvent.isOpening = 0 :=
  (endsExchange_decodeEvents call response).counts.1

theorem countP_isOpening_dispose (call : Nat) (response : Response) (disposal : Disposal α) :
    (session.dispose call response disposal).session.exchanges.countP ExchangeEvent.isOpening =
      session.exchanges.countP ExchangeEvent.isOpening := by
  cases disposal with
  | keep name => simp [dispose, withEvents, countP_isOpening_releaseOf]
  | release => simp [dispose, withEvents, ExchangeEvent.isOpening]
  | decode decoder => simp [dispose, withEvents, countP_isOpening_decodeEvents]

/-- A step opens one exchange if it obtains one, and otherwise none. -/
theorem countP_isOpening_step (session : Session) (next : Step α) :
    (session.step next).session.exchanges.countP ExchangeEvent.isOpening =
      session.exchanges.countP ExchangeEvent.isOpening +
        if next.obtains session.requestor then 1 else 0 := by
  cases next with
  | send request polled transport disposal =>
    have use := session.requestor.exchangeUse_send session.nextCall polled transport request
    generalize obtained : session.requestor.obtains polled transport request = isObtained at use
    rw [Step.obtains, obtained]
    simp only [step]
    generalize session.requestor.send session.nextCall polled transport request = trace at use ⊢
    cases use with
    | none completion sent observations noResponse =>
      split
      case h_5 response arrives => exact absurd arrives (noResponse response)
      all_goals simp [record]
    | dropped outbound observations =>
      simp [record, List.countP_cons, ExchangeEvent.isOpening]
    | answered response outbound observations =>
      rw [countP_isOpening_dispose]
      simp [record, ExchangeEvent.isOpening]
  | decode name decoder =>
    simp only [step]
    split <;> simp [Step.obtains, withEvents, countP_isOpening_decodeEvents]
  | view name =>
    simp only [step]
    split <;> simp [Step.obtains]
  | release name => simp [step, Step.obtains, withEvents, countP_isOpening_releaseOf]
  | describe => simp [step, Step.obtains]

/-- A run opens as many exchanges as its steps obtain. -/
theorem countP_isOpening_run (session : Session) (steps : List (Step α)) :
    (session.run steps).2.exchanges.countP ExchangeEvent.isOpening =
      session.exchanges.countP ExchangeEvent.isOpening +
        steps.countP (Step.obtains session.requestor) := by
  induction steps generalizing session with
  | nil => rfl
  | cons first rest inductionHypothesis =>
    simp only [run]
    rw [inductionHypothesis, countP_isOpening_step, requestor_step, List.countP_cons]
    omega

/-- A run calls the transport once for each step that reaches it. -/
theorem length_sent_run (session : Session) (steps : List (Step α)) :
    (session.run steps).2.sent.length =
      session.sent.length + steps.countP (Step.reaches session.requestor) := by
  rw [sent_run, List.length_append, Nat.add_left_cancel_iff]
  induction steps with
  | nil => rfl
  | cons first rest inductionHypothesis =>
    rw [List.flatMap_cons, List.length_append, inductionHypothesis, Step.length_handed,
      List.countP_cons]
    omega

/-- In every state that a session reaches, the exchanges that were not given back are those of the
responses held, each of which is unread.  Every other exchange was given back once, and its body was
read at most once before that.  The exchanges are those that the transport yielded, the transport is
called for the sends that are polled and whose paths resolve, and every other send leaves the
exchanges alone. -/
theorem run_accounted (requestor : Requestor) (steps : List (Step α)) :
    let reached := ((start requestor).run steps).2
    liveExchanges reached.exchanges = reached.held.length ∧
      (reached.held.map (·.call)).Nodup ∧
      (∀ call,
        if call ∈ reached.held.map (·.call) then
          historyOf call reached.exchanges = [.opened call]
        else
          historyOf call reached.exchanges = [] ∨
            historyOf call reached.exchanges = [.opened call, .released call] ∨
            historyOf call reached.exchanges = [.opened call, .read call, .released call]) ∧
      reached.exchanges.countP ExchangeEvent.isOpening =
        steps.countP (Step.obtains requestor) ∧
      reached.sent.length = steps.countP (Step.reaches requestor) ∧
      ∀ (request : Request) (polled : Bool),
        (polled = false ∨ ∃ cause, requestor.confines.resolve request.path = .error cause) →
          ∀ (transport : Outbound → Answer) (disposal : Disposal α),
            (reached.step (.send request polled transport disposal)).session.exchanges =
              reached.exchanges := by
  intro reached
  have accounts : reached.Accounts [] := (accounts_start requestor).run steps
  have balanced : Balanced (reached.held.map (·.call)) reached.sent.length reached.exchanges :=
    accounts.balanced
  refine ⟨?_, balanced.distinct, fun call => ?_, ?_, ?_, ?_⟩
  · simpa using balanced.liveExchanges_eq_length
  · split
    case isTrue inside => exact balanced.isOpen call inside
    case isFalse outside =>
      refine (balanced.ended call outside).imp_right ?_
      rintro ⟨ending, ends, history⟩
      cases ends with
      | unread => exact .inl history
      | read => exact .inr history
  · exact (countP_isOpening_run (start requestor) steps).trans (Nat.zero_add _)
  · exact (length_sent_run (start requestor) steps).trans (Nat.zero_add _)
  · rintro request polled (rfl | ⟨cause, refused⟩) transport disposal
    · simp [step, Requestor.send, record]
    · have sameRequestor : reached.requestor = requestor := requestor_run _ steps
      exact ((reached.step_of_refused request cause (sameRequestor ▸ refused) transport
        disposal).2 polled).2

/-- A page is replaced under its name by a later one, which cannot be decoded, and a send that waits
is dropped.  A send without a poll changes nothing. -/
theorem run_accounted_replacing :
    let api : Prefix := ⟨⟨"https", some ⟨"", none, .name "host", none⟩, .rooted ["api", ""], none,
      none⟩⟩
    let page : Exchange := ⟨200, ⟨[("content-type", "text/html")]⟩, .whole []⟩
    let fetch (transport : Outbound → Answer) : Step Json.Value :=
      .send (.plain .get "users") true transport (.keep "page")
    let steps := [fetch fun _ => .exchange page, fetch fun _ => .pending,
      fetch fun _ => .exchange page, .decode "page" Json.Decoder.any, .release "page",
      fetch fun _ => .exchange page]
    let reached := ((start ⟨api, .absent, 8⟩).run steps).2
    reached.exchanges = [.opened 0, .opened 1, .released 1, .opened 2, .released 0, .released 2,
        .opened 3] ∧
      liveExchanges reached.exchanges = reached.held.length ∧
      reached.held.length = 1 ∧
      (reached.step (.send (.plain .get "users") false (fun _ => .pending)
        (.keep "page") : Step Json.Value)).session.exchanges = reached.exchanges := by
  intro api page fetch steps reached
  have accounted := run_accounted ⟨api, .absent, 8⟩ steps
  exact ⟨by decide +kernel, accounted.1, by decide +kernel,
    accounted.2.2.2.2.2 _ false (.inl rfl) _ _⟩

end Session

end ConfinedHttp
