import ConfinedHttp.Transport
import Mathlib.Logic.Function.Iterate

namespace ConfinedHttp.Body

/-- The result of a body that has ended. -/
def atEnd (bytes : Bytes) : Ending → Except TransportError Bytes
  | .clean => .ok bytes
  | .broken cause => .error (.network cause)

/-- The result of a body by its bytes alone, however they are cut into pieces. -/
def outcome (limit : Nat) (declared : Option Nat) (bytes : Bytes) (ending : Ending) :
    Except TransportError Bytes :=
  if (∃ length, declared = some length ∧ limit < length) ∨ limit < bytes.length then
    .error (.bodyTooLarge limit)
  else atEnd bytes ending

/-- A reader asks for the next piece, with the bytes that it holds and the pieces still to come, or
it is done. -/
inductive Reader where
  | asks (held : Bytes) (left : List Bytes)
  | done (result : Except TransportError Bytes)

namespace Reader

/-- Before the first piece, only the announced length is looked at. -/
def start (limit : Nat) (body : Body) : Reader :=
  if body.declared.any (limit < ·) then .done (.error (.bodyTooLarge limit))
  else .asks [] body.chunks

/-- This function takes one turn: it holds one more piece, stops at the limit, or comes to the
end. -/
def turn (limit : Nat) (ending : Ending) : Reader → Reader
  | .asks held [] => .done (atEnd held ending)
  | .asks held (chunk :: left) =>
    if limit < held.length + chunk.length then .done (.error (.bodyTooLarge limit))
    else .asks (held ++ chunk) left
  | .done result => .done result

/-- While a reader asks, it holds the pieces that it took, in order, and no more bytes than the
limit allows. -/
def IsWithin (limit : Nat) (chunks : List Bytes) (turns : Nat) : Reader → Prop
  | .asks held left =>
    turns ≤ chunks.length ∧ left = chunks.drop turns ∧ held = (chunks.take turns).flatten ∧
      held.length ≤ limit
  | .done _ => True

variable {limit : Nat} {ending : Ending} {chunks : List Bytes}

theorem isWithin_start (body : Body) : (start limit body).IsWithin limit body.chunks 0 := by
  unfold start
  split
  · trivial
  · exact ⟨Nat.zero_le _, rfl, rfl, Nat.zero_le _⟩

theorem turn_asks_cons (held chunk : Bytes) (left : List Bytes) :
    turn limit ending (asks held (chunk :: left)) =
      if limit < held.length + chunk.length then done (.error (.bodyTooLarge limit))
      else asks (held ++ chunk) left := rfl

/-- One turn keeps a reader within the limit. -/
theorem IsWithin.turn {turns : Nat} {reader : Reader} (within : reader.IsWithin limit chunks turns) :
    (reader.turn limit ending).IsWithin limit chunks (turns + 1) := by
  cases reader with
  | done => trivial
  | asks held left =>
    obtain ⟨-, isLeft, isHeld, -⟩ := within
    cases left with
    | nil => trivial
    | cons chunk others =>
      rw [turn_asks_cons]
      split
      case isTrue => trivial
      case isFalse fits =>
        have inRange : turns < chunks.length := by
          by_contra beyond
          rw [List.drop_eq_nil_of_le (Nat.le_of_not_lt beyond)] at isLeft
          cases isLeft
        rw [List.drop_eq_getElem_cons inRange, List.cons.injEq] at isLeft
        refine ⟨inRange, isLeft.2, ?_, ?_⟩
        · rw [List.take_succ_eq_append_getElem inRange, List.flatten_append, isHeld, isLeft.1]
          simp
        · rw [List.length_append]
          omega

/-- Every turn of a run keeps a reader within the limit. -/
theorem isWithin_iterate (limit : Nat) (ending : Ending) (body : Body) (turns : Nat) :
    ((turn limit ending)^[turns] (start limit body)).IsWithin limit body.chunks turns := by
  induction turns with
  | zero => exact isWithin_start body
  | succ turns inductionHypothesis =>
    rw [Function.iterate_succ_apply']
    exact inductionHypothesis.turn

/-- A reader that is done stays so. -/
theorem iterate_done (result : Except TransportError Bytes) (turns : Nat) :
    (turn limit ending)^[turns] (done result) = done result :=
  Function.iterate_fixed rfl turns

/-- A reader that asks is done behind its last piece, with what gathering the pieces gives. -/
theorem iterate_asks (held : Bytes) (left : List Bytes) :
    (turn limit ending)^[left.length + 1] (asks held left) =
      done ((gather limit held left).bind (atEnd · ending)) := by
  induction left generalizing held with
  | nil => rfl
  | cons chunk others inductionHypothesis =>
    rw [List.length_cons, Function.iterate_succ_apply, turn_asks_cons, gather]
    split
    · exact iterate_done _ _
    · exact inductionHypothesis (held ++ chunk)

end Reader

/-- Gathering gives all bytes in order, or fails when they are more than the limit. -/
theorem gather_eq (limit : Nat) (held : Bytes) (chunks : List Bytes) (within : held.length ≤ limit) :
    gather limit held chunks =
      if limit < (held ++ chunks.flatten).length then .error (.bodyTooLarge limit)
      else .ok (held ++ chunks.flatten) := by
  induction chunks generalizing held with
  | nil => simp [gather, Nat.not_lt.mpr within]
  | cons chunk others inductionHypothesis =>
    unfold gather
    split
    case isTrue exceeds =>
      rw [if_pos]
      simp only [List.flatten_cons, List.length_append]
      omega
    case isFalse fits =>
      rw [inductionHypothesis (held ++ chunk) (by rw [List.length_append]; omega)]
      simp only [List.flatten_cons, List.append_assoc]

theorem read_eq (limit : Nat) (body : Body) :
    body.read limit =
      if body.declared.any (limit < ·) then .error (.bodyTooLarge limit)
      else (gather limit [] body.chunks).bind (atEnd · body.ending) := by
  unfold read
  split
  · rfl
  · cases gather limit [] body.chunks with
    | error => rfl
    | ok bytes => cases body.ending <;> rfl

/-- Reading a body depends on the announced length, on its bytes and on how it ends, but not on the
pieces that the bytes arrive in: an announced length or a number of bytes above the limit is refused,
then a broken end is reported, and else all bytes are given in order.  Reading is done one turn behind
the last piece, at the latest.  Until then a reader holds exactly the pieces that it took, which
together are never longer than the limit, and with an announced length above the limit it takes
none. -/
theorem read_chunked (limit : Nat) (body : Body) :
    body.read limit = outcome limit body.declared body.chunks.flatten body.ending ∧
      (Reader.turn limit body.ending)^[body.chunks.length + 1] (Reader.start limit body) =
        .done (body.read limit) ∧
      ∀ turns held left,
        (Reader.turn limit body.ending)^[turns] (Reader.start limit body) = .asks held left →
          (∀ length, body.declared = some length → length ≤ limit) ∧
            left = body.chunks.drop turns ∧ held = (body.chunks.take turns).flatten ∧
            held.length ≤ limit := by
  have announced : body.declared.any (limit < ·) = true ↔
      ∃ length, body.declared = some length ∧ limit < length := by
    simp [Option.any_eq_true]
  refine ⟨?_, ?_, fun turns held left asking => ?_⟩
  · rw [read_eq, outcome]
    by_cases tooLong : body.declared.any (limit < ·) = true
    · rw [if_pos tooLong, if_pos (.inl (announced.mp tooLong))]
    · rw [if_neg tooLong, gather_eq limit [] body.chunks (Nat.zero_le limit), List.nil_append]
      simp only [announced.not.mp tooLong, false_or]
      split <;> rfl
  · rw [read_eq, Reader.start]
    split
    · exact Reader.iterate_done _ _
    · exact Reader.iterate_asks [] body.chunks
  · have within := Reader.isWithin_iterate limit body.ending body turns
    rw [asking] at within
    obtain ⟨-, isLeft, isHeld, bounded⟩ := within
    refine ⟨fun length isDeclared => ?_, isLeft, isHeld, bounded⟩
    by_contra tooLong
    have refused : Reader.start limit body = .done (.error (.bodyTooLarge limit)) :=
      if_pos (announced.mpr ⟨length, isDeclared, Nat.lt_of_not_le tooLong⟩)
    rw [refused, Reader.iterate_done] at asking
    cases asking

/-- A body of exactly as many bytes as the limit is accepted, and between its pieces the reader
holds no more of them. -/
theorem read_chunked_at_limit :
    let body : Body := ⟨some 3, [[1, 2], [], [3]], .clean⟩
    body.read 3 = .ok [1, 2, 3] ∧
      (Reader.turn 3 .clean)^[2] (Reader.start 3 body) = .asks [1, 2] [[3]] ∧
      ([1, 2] : Bytes).length ≤ 3 := by
  intro body
  obtain ⟨result, -, each⟩ := read_chunked 3 body
  exact ⟨result, rfl, (each 2 [1, 2] [[3]] rfl).2.2.2⟩

end ConfinedHttp.Body
