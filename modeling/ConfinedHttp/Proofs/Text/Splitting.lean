import ConfinedHttp.Text.Split
import Mathlib.Algebra.GroupWithZero.Nat
import Mathlib.Data.List.Basic

namespace ConfinedHttp

variable {α : Type}

/-- Cutting agrees with the core library, whose lemmas then hold here. -/
theorem splitAt_eq_splitOnP (separates : α → Bool) (items : List α) :
    splitAt separates items = items.splitOnP separates := by
  induction items with
  | nil => simp [splitAt]
  | cons item rest inductionHypothesis =>
    rw [splitAt, inductionHypothesis, List.splitOnP_cons_eq_if_modifyHead]
    split
    · rfl
    · cases equal : rest.splitOnP separates with
      | nil => exact absurd equal (List.splitOnP_ne_nil separates rest)
      | cons first others => rfl

/-- There is always a piece. -/
theorem splitAt_ne_nil (separates : α → Bool) (items : List α) : splitAt separates items ≠ [] := by
  rw [splitAt_eq_splitOnP]
  exact List.splitOnP_ne_nil separates items

/-- A property of the items of a list can be checked item by item. -/
theorem forall_mem_of_all {holds : α → Prop} [DecidablePred holds] (items : List α)
    (each : items.all (holds ·) = true) : ∀ item ∈ items, holds item := by
  simpa using each

/-- No piece holds a separator, and nothing is in a piece that was not in the list. -/
theorem mem_of_mem_splitAt (separates : α → Bool) (items piece : List α)
    (cut : piece ∈ splitAt separates items) :
    ∀ item ∈ piece, item ∈ items ∧ separates item = false := by
  induction items generalizing piece with
  | nil =>
    have empty : piece = [] := by simpa [splitAt] using cut
    simp [empty]
  | cons first rest inductionHypothesis =>
    intro item inside
    have later (other : List α) (cutLater : other ∈ splitAt separates rest)
        (within : item ∈ other) :
        item ∈ first :: rest ∧ separates item = false :=
      (inductionHypothesis other cutLater item within).imp_left (List.mem_cons_of_mem _)
    rw [splitAt] at cut
    split at cut
    case isTrue =>
      obtain empty | cutLater := List.mem_cons.mp cut
      · simp [empty] at inside
      · exact later piece cutLater inside
    case isFalse kept =>
      split at cut
      case h_1 =>
        have alone : piece = [first] := by simpa using cut
        have equal : item = first := by simpa [alone] using inside
        exact ⟨by simp [equal], by simpa [equal] using kept⟩
      case h_2 front others equal =>
        obtain here | cutLater := List.mem_cons.mp cut
        · rw [here] at inside
          obtain head | tail := List.mem_cons.mp inside
          · exact ⟨by simp [head], by simpa [head] using kept⟩
          · exact later front (by simp [equal]) tail
        · exact later piece (by simp [equal, cutLater]) inside

/-- A joined list is made of the pieces and the marks between them. -/
theorem mem_intercalate (mark : List α) (pieces : List (List α)) (item : α)
    (inside : item ∈ mark.intercalate pieces) : item ∈ mark ∨ ∃ piece ∈ pieces, item ∈ piece := by
  induction pieces with
  | nil => simp at inside
  | cons piece rest inductionHypothesis =>
    cases rest with
    | nil => exact .inr ⟨piece, List.mem_cons_self .., by simpa using inside⟩
    | cons next others =>
      rw [List.intercalate_cons_cons, List.append_assoc] at inside
      obtain here | between := List.mem_append.mp inside
      · exact .inr ⟨piece, List.mem_cons_self .., here⟩
      obtain here | later := List.mem_append.mp between
      · exact .inl here
      · obtain isMark | ⟨other, within, isOther⟩ := inductionHypothesis later
        · exact .inl isMark
        · exact .inr ⟨other, List.mem_cons_of_mem _ within, isOther⟩

/-- A joined list holds what its pieces hold, and the marks between them. -/
theorem count_intercalate [DecidableEq α] (mark item : α) (pieces : List (List α)) :
    ([mark].intercalate pieces).count item =
      (pieces.map (·.count item)).sum + if mark = item then pieces.length - 1 else 0 := by
  induction pieces with
  | nil => simp
  | cons piece rest inductionHypothesis =>
    cases rest with
    | nil => simp
    | cons next others =>
      rw [List.intercalate_cons_cons, List.count_append, List.count_append, inductionHypothesis]
      simp only [List.map_cons, List.sum_cons, List.length_cons, List.count_singleton, beq_iff_eq]
      split <;> omega

/-- Pieces behind other pieces are joined behind them. -/
theorem intercalate_append (mark : List α) (front back : List (List α)) (someFront : front ≠ [])
    (someBack : back ≠ []) :
    mark.intercalate (front ++ back) = mark.intercalate front ++ mark ++ mark.intercalate back := by
  induction front with
  | nil => exact absurd rfl someFront
  | cons piece rest inductionHypothesis =>
    cases rest with
    | nil => simp [List.intercalate_cons_of_ne_nil someBack]
    | cons next others =>
      have later := inductionHypothesis (by simp)
      rw [List.cons_append] at later
      rw [List.cons_append, List.cons_append, List.intercalate_cons_cons, later,
        List.intercalate_cons_cons]
      simp only [List.append_assoc]

/-- Every result of a map that may fail comes from an item. -/
theorem exists_of_mem_mapM {β : Type} (function : α → Option β) (items : List α) (results : List β)
    (all : items.mapM function = some results) (result : β) (inside : result ∈ results) :
    ∃ item ∈ items, function item = some result := by
  induction items generalizing results with
  | nil =>
    obtain rfl : [] = results := by simpa using all
    simp at inside
  | cons item rest inductionHypothesis =>
    simp only [List.mapM_cons, bind, Option.bind_eq_some_iff, pure, Option.some.injEq] at all
    obtain ⟨first, isFirst, others, areOthers, rfl⟩ := all
    obtain rfl | later := List.mem_cons.mp inside
    · exact ⟨item, List.mem_cons_self .., isFirst⟩
    · obtain ⟨source, within, isResult⟩ := inductionHypothesis others areOthers later
      exact ⟨source, List.mem_cons_of_mem _ within, isResult⟩

/-- A list that nothing separates is one piece. -/
theorem splitAt_of_clean (separates : α → Bool) (items : List α)
    (clean : ∀ item ∈ items, separates item = false) : splitAt separates items = [items] := by
  induction items with
  | nil => rfl
  | cons item rest inductionHypothesis =>
    obtain ⟨here, later⟩ := List.forall_mem_cons.mp clean
    rw [splitAt, if_neg (by simp [here]), inductionHypothesis later]

/-- A separator parts the pieces before it from those behind it. -/
theorem splitAt_append_cons (separates : α → Bool) (front back : List α) (separator : α)
    (cuts : separates separator = true) :
    splitAt separates (front ++ separator :: back) =
      splitAt separates front ++ splitAt separates back := by
  simp only [splitAt_eq_splitOnP]
  exact List.splitOnP_append_cons front back cuts

/-- Cutting a joined list cuts each of its pieces. -/
theorem splitAt_intercalate_eq_flatMap (separates : α → Bool) (separator : α)
    (pieces : List (List α)) (cuts : separates separator = true) (some : pieces ≠ []) :
    splitAt separates ([separator].intercalate pieces) = pieces.flatMap (splitAt separates) := by
  induction pieces with
  | nil => exact absurd rfl some
  | cons piece rest inductionHypothesis =>
    cases rest with
    | nil => simp
    | cons next others =>
      rw [List.intercalate_cons_cons, List.append_assoc, List.singleton_append,
        splitAt_append_cons _ _ _ _ cuts, inductionHypothesis (by simp)]
      exact List.flatMap_cons.symm

/-- Pieces stay whole exactly when none of them holds a separator. -/
theorem flatMap_splitAt_eq_self_iff (separates : α → Bool) (pieces : List (List α)) :
    pieces.flatMap (splitAt separates) = pieces ↔
      ∀ piece ∈ pieces, ∀ item ∈ piece, separates item = false := by
  constructor
  · intro same piece inside item within
    rw [← same] at inside
    obtain ⟨source, -, cut⟩ := List.mem_flatMap.mp inside
    exact (mem_of_mem_splitAt separates source piece cut item within).2
  · intro clean
    calc pieces.flatMap (splitAt separates)
        = pieces.flatMap fun piece => [piece] :=
          List.flatMap_congr fun piece inside => splitAt_of_clean _ _ (clean piece inside)
      _ = pieces := by simp

/-- Cutting undoes joining. -/
theorem splitAt_intercalate (separates : α → Bool) (separator : α) (pieces : List (List α))
    (cuts : separates separator = true) (some : pieces ≠ [])
    (clean : ∀ piece ∈ pieces, ∀ item ∈ piece, separates item = false) :
    splitAt separates ([separator].intercalate pieces) = pieces := by
  rw [splitAt_intercalate_eq_flatMap separates separator pieces cuts some]
  exact (flatMap_splitAt_eq_self_iff separates pieces).mpr clean

/-- Joining undoes cutting. -/
theorem intercalate_splitAt [DecidableEq α] (separator : α) (items : List α) :
    [separator].intercalate (splitAt (· == separator) items) = items := by
  rw [splitAt_eq_splitOnP]
  exact List.intercalate_splitOn separator

/-- A text up to the first item that does not pass a test is cut off there. -/
theorem takeWhile_dropWhile_append (passes : α → Bool) (text rest : List α)
    (each : ∀ item ∈ text, passes item = true) (ends : ∀ next ∈ rest.head?, passes next = false) :
    (text ++ rest).takeWhile passes = text ∧ (text ++ rest).dropWhile passes = rest := by
  rw [List.takeWhile_append_of_pos each, List.dropWhile_append_of_pos each]
  cases rest with
  | nil => simp
  | cons next others => simp [ends next rfl]

/-- A prefix of two joined lists ends in the first or reaches into the second. -/
theorem isPrefix_append_cases {front first second : List α} (within : front <+: first ++ second) :
    front <+: first ∨ ∃ more, more ≠ [] ∧ front = first ++ more ∧ more <+: second := by
  obtain inFirst | ⟨more, rfl⟩ :=
    List.prefix_or_prefix_of_prefix within (List.prefix_append first second)
  · exact .inl inFirst
  · cases more with
    | nil => exact .inl (by simp)
    | cons item rest =>
      exact .inr ⟨item :: rest, by simp, rfl, (List.prefix_append_right_inj _).mp within⟩

/-- Two lists that hold no mark before their first one agree up to there if one is a prefix. -/
theorem isPrefix_marked_iff (mark : α) (first second firstRest secondRest : List α)
    (firstClean : mark ∉ first) (secondClean : mark ∉ second) :
    first ++ mark :: firstRest <+: second ++ mark :: secondRest ↔
      first = second ∧ firstRest <+: secondRest := by
  induction first generalizing second with
  | nil =>
    cases second with
    | nil => simp
    | cons item others =>
      have different : mark ≠ item := fun equal => secondClean (by simp [equal])
      simp [different]
  | cons item others inductionHypothesis =>
    cases second with
    | nil =>
      have different : item ≠ mark := fun equal => firstClean (by simp [equal])
      simp [different]
    | cons other rest =>
      have tail := inductionHypothesis rest
        (fun inside => firstClean (List.mem_cons_of_mem _ inside))
        (fun inside => secondClean (List.mem_cons_of_mem _ inside))
      rw [List.cons_append, List.cons_append, List.cons_prefix_cons, tail, List.cons.injEq,
        and_assoc]

end ConfinedHttp
