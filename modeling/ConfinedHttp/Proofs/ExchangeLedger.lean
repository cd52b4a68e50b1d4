import ConfinedHttp.Session
import Mathlib.Data.List.Nodup

namespace ConfinedHttp

namespace ExchangeEvent

/-- The call whose exchange an event is about. -/
def call : ExchangeEvent → Nat
  | opened call => call
  | read call => call
  | released call => call

def isOpening : ExchangeEvent → Bool
  | opened _ => true
  | _ => false

def isRelease : ExchangeEvent → Bool
  | released _ => true
  | _ => false

end ExchangeEvent

/-- The events of one call, in order. -/
def historyOf (call : Nat) (events : List ExchangeEvent) : List ExchangeEvent :=
  events.filter (·.call = call)

/-- An exchange ends by being given back once, with its body read before or left alone. -/
inductive EndsExchange (call : Nat) : List ExchangeEvent → Prop where
  | unread : EndsExchange call [.released call]
  | read : EndsExchange call [.read call, .released call]

theorem historyOf_append (call : Nat) (first second : List ExchangeEvent) :
    historyOf call (first ++ second) = historyOf call first ++ historyOf call second :=
  List.filter_append ..

theorem historyOf_of_forall {call : Nat} {events : List ExchangeEvent}
    (all : ∀ event ∈ events, event.call = call) : historyOf call events = events := by
  simpa [historyOf] using all

theorem historyOf_of_forall_ne {call : Nat} {events : List ExchangeEvent}
    (none : ∀ event ∈ events, event.call ≠ call) : historyOf call events = [] := by
  simpa [historyOf] using none

/-- Events of one call leave the history of every other call alone. -/
theorem historyOf_append_of_ne {call other : Nat} (different : other ≠ call)
    (events : List ExchangeEvent) {more : List ExchangeEvent}
    (about : ∀ event ∈ more, event.call = call) :
    historyOf other (events ++ more) = historyOf other events := by
  have quiet : historyOf other more = [] :=
    historyOf_of_forall_ne fun event inside equal =>
      different (equal.symm.trans (about event inside))
  rw [historyOf_append, quiet, List.append_nil]

theorem liveExchanges_eq (events : List ExchangeEvent) :
    liveExchanges events =
      events.countP ExchangeEvent.isOpening - events.countP ExchangeEvent.isRelease := by
  rw [List.countP_eq_length_filter, List.countP_eq_length_filter]
  rfl

theorem EndsExchange.call_eq {call : Nat} {events : List ExchangeEvent}
    (ends : EndsExchange call events) : ∀ event ∈ events, event.call = call := by
  cases ends <;> simp [ExchangeEvent.call]

/-- An end gives one exchange back and opens none. -/
theorem EndsExchange.counts {call : Nat} {events : List ExchangeEvent}
    (ends : EndsExchange call events) :
    events.countP ExchangeEvent.isOpening = 0 ∧ events.countP ExchangeEvent.isRelease = 1 := by
  cases ends <;> exact ⟨rfl, rfl⟩

/-- The books of the exchanges of the calls below a number: the calls in a list have an open
exchange, and every other call has none or has come to its end. -/
structure Balanced (live : List Nat) (next : Nat) (events : List ExchangeEvent) : Prop where
  distinct : live.Nodup
  made : ∀ call ∈ live, call < next
  past : ∀ event ∈ events, event.call < next
  isOpen : ∀ call ∈ live, historyOf call events = [.opened call]
  ended : ∀ call ∉ live, historyOf call events = [] ∨
    ∃ ending, EndsExchange call ending ∧ historyOf call events = .opened call :: ending
  count : events.countP ExchangeEvent.isOpening =
    events.countP ExchangeEvent.isRelease + live.length

namespace Balanced

theorem start : Balanced [] 0 [] where
  distinct := List.nodup_nil
  made := by simp
  past := by simp
  isOpen := by simp
  ended _ _ := .inl rfl
  count := rfl

variable {live : List Nat} {next : Nat} {events : List ExchangeEvent}

/-- Calls without an exchange leave the books alone. -/
theorem skip {later : Nat} (balanced : Balanced live next events) (notBefore : next ≤ later) :
    Balanced live later events :=
  { balanced with
    made := fun call inside => Nat.lt_of_lt_of_le (balanced.made call inside) notBefore
    past := fun event inside => Nat.lt_of_lt_of_le (balanced.past event inside) notBefore }

theorem perm {others : List Nat} (balanced : Balanced live next events)
    (reordered : live.Perm others) : Balanced others next events where
  distinct := reordered.nodup_iff.mp balanced.distinct
  made call inside := balanced.made call (reordered.mem_iff.mpr inside)
  past := balanced.past
  isOpen call inside := balanced.isOpen call (reordered.mem_iff.mpr inside)
  ended call outside := balanced.ended call fun inside => outside (reordered.mem_iff.mp inside)
  count := by rw [balanced.count, reordered.length_eq]

theorem next_notMem (balanced : Balanced live next events) : next ∉ live :=
  fun inside => Nat.lt_irrefl next (balanced.made next inside)

theorem historyOf_next (balanced : Balanced live next events) : historyOf next events = [] :=
  historyOf_of_forall_ne fun event inside => Nat.ne_of_lt (balanced.past event inside)

/-- The next call opens an exchange. -/
theorem opening (balanced : Balanced live next events) :
    Balanced (next :: live) (next + 1) (events ++ [.opened next]) where
  distinct := List.nodup_cons.mpr ⟨balanced.next_notMem, balanced.distinct⟩
  made := by
    intro call inside
    obtain rfl | before := List.mem_cons.mp inside
    · exact Nat.lt_succ_self call
    · exact Nat.lt_succ_of_lt (balanced.made call before)
  past := by
    intro event inside
    obtain before | now := List.mem_append.mp inside
    · exact Nat.lt_succ_of_lt (balanced.past event before)
    · rw [List.mem_singleton.mp now]
      exact Nat.lt_succ_self next
  isOpen := by
    intro call inside
    obtain rfl | before := List.mem_cons.mp inside
    · rw [historyOf_append, balanced.historyOf_next]
      exact historyOf_of_forall (by simp [ExchangeEvent.call])
    · have other : call ≠ next := fun equal => balanced.next_notMem (equal ▸ before)
      rw [historyOf_append_of_ne other events (by simp [ExchangeEvent.call])]
      exact balanced.isOpen call before
  ended := by
    intro call outside
    rw [List.mem_cons, not_or] at outside
    rw [historyOf_append_of_ne outside.1 events (by simp [ExchangeEvent.call])]
    exact balanced.ended call outside.2
  count := by
    have count := balanced.count
    have opens : [ExchangeEvent.opened next].countP ExchangeEvent.isOpening = 1 := rfl
    have releases : [ExchangeEvent.opened next].countP ExchangeEvent.isRelease = 0 := rfl
    rw [List.countP_append, List.countP_append, List.length_cons, opens, releases]
    omega

/-- An open exchange comes to its end. -/
theorem ending {call : Nat} {more : List ExchangeEvent}
    (balanced : Balanced (call :: live) next events) (ends : EndsExchange call more) :
    Balanced live next (events ++ more) where
  distinct := balanced.distinct.of_cons
  made other inside := balanced.made other (List.mem_cons_of_mem _ inside)
  past := by
    intro event inside
    obtain before | now := List.mem_append.mp inside
    · exact balanced.past event before
    · rw [ends.call_eq event now]
      exact balanced.made call (List.mem_cons_self ..)
  isOpen := by
    intro other inside
    have notLive := (List.nodup_cons.mp balanced.distinct).1
    have different : other ≠ call := fun equal => notLive (equal ▸ inside)
    rw [historyOf_append_of_ne different events ends.call_eq]
    exact balanced.isOpen other (List.mem_cons_of_mem _ inside)
  ended := by
    intro other outside
    by_cases same : other = call
    · right
      refine ⟨more, same ▸ ends, ?_⟩
      rw [same, historyOf_append, balanced.isOpen call (List.mem_cons_self ..),
        historyOf_of_forall ends.call_eq]
      rfl
    · rw [historyOf_append_of_ne same events ends.call_eq]
      exact balanced.ended other (by simp [same, outside])
  count := by
    have count := balanced.count
    obtain ⟨noOpening, oneRelease⟩ := ends.counts
    rw [List.length_cons] at count
    rw [List.countP_append, List.countP_append, noOpening, oneRelease]
    omega

/-- The exchanges that were not given back are those of the live calls. -/
theorem liveExchanges_eq_length (balanced : Balanced live next events) :
    liveExchanges events = live.length := by
  rw [liveExchanges_eq, balanced.count, Nat.add_sub_cancel_left]

end Balanced

end ConfinedHttp
