import ConfinedHttp.Proofs.Url.SegmentReading

namespace ConfinedHttp

namespace Ascii

/-- Folding the case changes letters only, and the two cases of a letter become the same. -/
theorem toLower_eq_iff (character : Char) :
    (character.toLower = '.' ↔ character = '.') ∧ (character.toLower = '%' ↔ character = '%') ∧
      (character.toLower = '2' ↔ character = '2') ∧
      (character.toLower = 'e' ↔ character = 'e' ∨ character = 'E') := by
  by_cases ascii : character.toNat < 128
  · refine forall_of_forall_code ?_ character ascii
    decide +kernel
  · have notUpper : ¬ character.isUpper := fun upper =>
      ascii (toNat_lt_of_isAlpha character (by simp [Char.isAlpha, upper]))
    have kept : character.toLower = character := Char.toLower_eq_of_not_isUpper notUpper
    have notLetter : character ≠ 'E' := by
      rintro rfl
      exact ascii (by decide)
    simp [kept, notLetter]

end Ascii

namespace Segments

/-- The written forms of a dot. -/
def dots : List (List Char) := [['.'], ['%', '2', 'e'], ['%', '2', 'E']]

/-- A single dot names the place itself. -/
def NamesPlace (segment : List Char) : Prop := segment ∈ dots

/-- Two dots name the place above. -/
def NamesAbove (segment : List Char) : Prop :=
  ∃ first ∈ dots, ∃ second ∈ dots, segment = first ++ second

instance (segment : List Char) : Decidable (NamesPlace segment) :=
  inferInstanceAs (Decidable (_ ∈ _))

instance (segment : List Char) : Decidable (NamesAbove segment) :=
  inferInstanceAs (Decidable (∃ first ∈ dots, ∃ second ∈ dots, segment = first ++ second))

theorem isDot_iff (segment : List Char) : isDot segment = true ↔ NamesPlace segment := by
  simp only [isDot, NamesPlace, dots, Bool.or_eq_true, decide_eq_true_eq, List.map_eq_cons_iff,
    List.map_eq_nil_iff, Ascii.toLower_eq_iff, List.mem_cons, List.not_mem_nil, or_false]
  aesop

theorem isDoubleDot_iff (segment : List Char) :
    isDoubleDot segment = true ↔ NamesAbove segment := by
  simp only [isDoubleDot, NamesAbove, dots, Bool.or_eq_true, decide_eq_true_eq,
    List.map_eq_cons_iff, List.map_eq_nil_iff, Ascii.toLower_eq_iff, List.mem_cons,
    List.not_mem_nil, or_false]
  aesop

/-- A segment of dots names a place by where it stands. -/
def NamesByDots (segment : List Char) : Prop := NamesPlace segment ∨ NamesAbove segment

instance (segment : List Char) : Decidable (NamesByDots segment) :=
  inferInstanceAs (Decidable (_ ∨ _))

/-- A stack holds its top first.  Two dots remove the top if there is one, and one dot skips. -/
def visit (stack : List (List Char)) (segment : List Char) : List (List Char) :=
  if NamesAbove segment then stack.tail
  else if NamesPlace segment then stack
  else segment :: stack

/-- The segments that visiting leaves on a stack, in order.  A dot segment at the end leaves an
empty one. -/
def evaluateFrom (stack segments : List (List Char)) : List (List Char) :=
  let reached := segments.foldl visit stack
  (if segments.getLast?.any (NamesByDots ·) then [] :: reached else reached).reverse

/-- The segments that a list of segments names from the root on. -/
def evaluate (segments : List (List Char)) : List (List Char) := evaluateFrom [] segments

theorem evaluateFrom_cons_cons (stack : List (List Char)) (segment next : List Char)
    (rest : List (List Char)) :
    evaluateFrom stack (segment :: next :: rest) =
      evaluateFrom (visit stack segment) (next :: rest) := by
  simp [evaluateFrom]

/-- Segments that name no place by dots stay as they are. -/
theorem foldl_visit_of_no_dots (stack segments : List (List Char))
    (noDots : ∀ segment ∈ segments, ¬ NamesByDots segment) :
    segments.foldl visit stack = segments.reverse ++ stack := by
  induction segments generalizing stack with
  | nil => rfl
  | cons segment rest inductionHypothesis =>
    obtain ⟨notPlace, notAbove⟩ := not_or.mp (noDots segment (List.mem_cons_self ..))
    rw [List.foldl_cons,
      inductionHypothesis _ fun other inside => noDots other (List.mem_cons_of_mem _ inside), visit,
      if_neg notAbove, if_neg notPlace, List.reverse_cons, List.append_assoc, List.singleton_append]

/-- A lone empty segment is put on the stack. -/
theorem evaluateFrom_lone (stack : List (List Char)) :
    evaluateFrom stack [[]] = stack.reverse ++ [[]] := by
  have noDots : ¬ NamesAbove [] ∧ ¬ NamesPlace [] := by decide
  simp [evaluateFrom, visit, NamesByDots, noDots]

/-- Segments without dots in front only fill the stack. -/
theorem evaluate_append (front segments : List (List Char)) (some : segments ≠ [])
    (noDots : ∀ segment ∈ front, ¬ NamesByDots segment) :
    evaluate (front ++ segments) = evaluateFrom front.reverse segments := by
  simp only [evaluate, evaluateFrom, List.foldl_append, foldl_visit_of_no_dots [] front noDots,
    List.append_nil, List.getLast?_append_of_ne_nil front some]

/-- The segments of a stack as a path holds them. -/
def held (stack : List (List Char)) : List String := (stack.map String.ofList).reverse

theorem pop_held (stack : List (List Char))
    (noDrive : ∀ segment ∈ stack, isDrive segment = false) :
    pop (held stack) = held stack.tail := by
  cases stack with
  | nil => rfl
  | cons top rest =>
    have notDrive := noDrive top (List.mem_cons_self ..)
    simp [pop, held, notDrive]

theorem isDrive_visit (stack : List (List Char)) (segment : List Char)
    (noDrive : ∀ other ∈ stack, isDrive other = false) (notDrive : isDrive segment = false) :
    ∀ other ∈ visit stack segment, isDrive other = false := by
  rw [visit]
  split
  · exact fun other inside => noDrive other (List.mem_of_mem_tail inside)
  · split
    · exact noDrive
    · exact List.forall_mem_cons.mpr ⟨notDrive, noDrive⟩

/-- Walking over a segment is visiting it, as long as no drive letter is in the way. -/
theorem walk_held_cons (kind : SchemeKind) (stack : List (List Char)) (piece : List Char)
    (rest : List (List Char)) (kept : escape kind piece = String.ofList piece)
    (noDrive : ∀ segment ∈ stack, isDrive segment = false) :
    walk kind (held stack) (piece :: rest) =
      walk kind
        (held (if rest.isEmpty ∧ NamesByDots piece then [] :: visit stack piece
          else visit stack piece)) rest := by
  -- only the last segment leaves an empty one behind, and only when it is one of dots
  have closed (reached : List (List Char)) :
      (if rest = [] then held reached ++ [""] else held reached) =
        held (if rest = [] then [] :: reached else reached) := by
    split <;> simp [held]
  by_cases above : NamesAbove piece
  · simp [walk, isDoubleDot_iff, above, pop_held stack noDrive, closed, visit, NamesByDots]
  · by_cases place : NamesPlace piece
    · simp [walk, isDoubleDot_iff, isDot_iff, above, place, closed, visit, NamesByDots]
    · have pushed : held stack ++ [escape kind piece] = held (piece :: stack) := by
        simp [held, kept]
      simp [walk, isDoubleDot_iff, isDot_iff, above, place, pushed, visit, NamesByDots]

/-- Walking over written segments evaluates them. -/
theorem walk_held_eq_evaluateFrom (kind : SchemeKind) (pieces : List (List Char))
    (kept : ∀ piece ∈ pieces, escape kind piece = String.ofList piece ∧ isDrive piece = false)
    (stack : List (List Char)) (noDrive : ∀ segment ∈ stack, isDrive segment = false) :
    walk kind (held stack) pieces = (evaluateFrom stack pieces).map String.ofList := by
  induction pieces generalizing stack with
  | nil => simp [walk, evaluateFrom, held]
  | cons piece rest inductionHypothesis =>
    obtain ⟨isKept, notDrive⟩ := kept piece (List.mem_cons_self ..)
    rw [walk_held_cons kind stack piece rest isKept noDrive]
    cases rest with
    | nil => simp [walk, evaluateFrom, held]
    | cons next others =>
      rw [evaluateFrom_cons_cons, if_neg (by simp)]
      exact inductionHypothesis (fun other inside => kept other (List.mem_cons_of_mem _ inside)) _
        (isDrive_visit stack piece noDrive notDrive)

end Segments

end ConfinedHttp
