import ConfinedHttp.Proofs.Text.Escaping
import ConfinedHttp.Proofs.Text.Splitting
import ConfinedHttp.Url.Segments

namespace ConfinedHttp.Segments

/-- Reading leaves nothing to escape in a segment, no separator, and no dot segment. -/
structure IsSettled (kind : SchemeKind) (segment : String) : Prop where
  escaped : Percent.IsEscaped Percent.inPath segment.toList
  whole : ∀ character ∈ segment.toList, kind.isSlash character = false
  notDot : isDot segment.toList = false
  notDoubleDot : isDoubleDot segment.toList = false

theorem isSettled_empty (kind : SchemeKind) : IsSettled kind "" :=
  ⟨by simp [Percent.IsEscaped], by simp, by decide, by decide⟩

/-- The digits of an escape in small letters. -/
theorem toLower_upperHexDigit (value : Nat) (small : value < 16) :
    ((Ascii.upperHexDigit value).toLower = '2' → value = 2) ∧
      ((Ascii.upperHexDigit value).toLower = 'e' → value = 14) := by
  revert value
  decide

/-- The dot is never escaped in a path, so an escape that stands for a dot was written as one. -/
theorem not_escape_isInfix_of_dots (byte : UInt8) (isEscaped : Percent.inPath byte = true)
    (text : List Char) (dots : isDot text = true ∨ isDoubleDot text = true) :
    ¬ Percent.escape byte <:+: text := by
  intro part
  have folded : (Percent.escape byte).map Char.toLower <:+: text.map Char.toLower := part.map _
  have size := byte.toNat_lt
  have high := toLower_upperHexDigit (byte.toNat / 16) (by omega)
  have low := toLower_upperHexDigit (byte.toNat % 16) (by omega)
  -- the only escape in the text of a dot segment has the digits of the dot
  have isDotByte : byte = 0x2E := by
    have digits : byte.toNat / 16 = 2 ∧ byte.toNat % 16 = 14 := by
      simp only [isDot, isDoubleDot, Bool.or_eq_true, decide_eq_true_eq] at dots
      rcases dots with (plain | one) | (((two | three) | four) | five)
      · subst plain
        simp [Percent.escape, List.infix_cons_iff] at folded
      all_goals
        simp_all [Percent.escape, List.infix_cons_iff, List.prefix_cons_iff]
    rw [← UInt8.toNat_inj]
    change byte.toNat = 46
    omega
  subst isDotByte
  exact absurd isEscaped (by decide)

/-- Escaping makes no dot segment out of a segment that is none. -/
theorem eq_of_dots_encodeText (piece : List Char)
    (dots : isDot (Percent.encodeText Percent.inPath piece).toList = true ∨
      isDoubleDot (Percent.encodeText Percent.inPath piece).toList = true) :
    (Percent.encodeText Percent.inPath piece).toList = piece := by
  rw [Percent.encodeText, String.toList_ofList] at dots ⊢
  apply Percent.encode_of_isEscaped
  apply Percent.isEscaped_of_not_isInfix Percent.isEscapeSet_inPath
  intro byte isEscaped
  exact not_escape_isInfix_of_dots byte isEscaped _ dots

theorem isSettled_encodeText (kind : SchemeKind) (piece : List Char)
    (whole : ∀ character ∈ piece, kind.isSlash character = false) (notDot : isDot piece = false)
    (notDoubleDot : isDoubleDot piece = false) :
    IsSettled kind (Percent.encodeText Percent.inPath piece) where
  escaped := by
    rw [Percent.encodeText, String.toList_ofList]
    exact Percent.isEscaped_encode Percent.isEscapeSet_inPath _
  whole character inside := by
    rw [Percent.encodeText, String.toList_ofList] at inside
    by_contra slash
    have isSlash : kind.isSlash character = true := by simpa using slash
    have shape : character = '/' ∨ character = '\\' := by
      simp only [SchemeKind.isSlash, Bool.or_eq_true, Bool.and_eq_true, beq_iff_eq] at isSlash
      exact isSlash.imp_right And.left
    have within := Percent.mem_of_mem_encode Percent.isEscapeSet_inPath piece character inside
      (by rcases shape with rfl | rfl <;> decide) (by rcases shape with rfl | rfl <;> decide)
    simp [whole character within] at isSlash
  notDot := by
    by_contra dot
    have dot := Bool.not_eq_false _ |>.mp dot
    rw [eq_of_dots_encodeText piece (.inl dot)] at dot
    simp [dot] at notDot
  notDoubleDot := by
    by_contra dots
    have dots := Bool.not_eq_false _ |>.mp dots
    rw [eq_of_dots_encodeText piece (.inr dots)] at dots
    simp [dots] at notDoubleDot

/-- Letters stand for themselves in every path. -/
theorem plain_of_isAlpha (letter : Char) (isLetter : letter.isAlpha = true) :
    Percent.inPath (UInt8.ofNat letter.toNat) = false ∧ letter ≠ '/' ∧ letter ≠ '\\' := by
  have ascii := Ascii.toNat_lt_of_isAlpha letter isLetter
  revert isLetter
  refine Ascii.forall_of_forall_code ?_ letter ascii
  decide +kernel

theorem isSettled_drive (kind : SchemeKind) (letter : Char) (isLetter : letter.isAlpha = true) :
    IsSettled kind (String.ofList [letter, ':']) where
  escaped := by
    obtain ⟨kept, -⟩ := plain_of_isAlpha letter isLetter
    have ascii := Ascii.toNat_lt_of_isAlpha letter isLetter
    simp only [String.toList_ofList, Percent.IsEscaped, List.forall_mem_cons]
    exact ⟨⟨ascii, kept⟩, ⟨by decide, by decide⟩, by simp⟩
  whole := by
    obtain ⟨-, notSlash, notBackslash⟩ := plain_of_isAlpha letter isLetter
    simp only [String.toList_ofList, SchemeKind.isSlash, List.forall_mem_cons]
    exact ⟨by simp [notSlash, notBackslash], by simp, by simp⟩
  notDot := by simp [isDot]
  notDoubleDot := by simp [isDoubleDot]

/-- A piece of a path is written with escapes, but the drive of a file with a colon. -/
theorem escape_eq (kind : SchemeKind) (piece : List Char) :
    (∃ letter, letter.isAlpha = true ∧ escape kind piece = String.ofList [letter, ':']) ∨
      escape kind piece = Percent.encodeText Percent.inPath piece := by
  fun_cases escape kind piece with
  | case1 letter mark drive =>
    exact .inl ⟨letter, by simp_all [isDrive], rfl⟩
  | case2 => exact .inr rfl
  | case3 => exact .inr rfl

theorem isSettled_escape (kind : SchemeKind) (piece : List Char)
    (whole : ∀ character ∈ piece, kind.isSlash character = false) (notDot : isDot piece = false)
    (notDoubleDot : isDoubleDot piece = false) : IsSettled kind (escape kind piece) := by
  obtain ⟨letter, isLetter, equal⟩ | equal := escape_eq kind piece
  · rw [equal]
    exact isSettled_drive kind letter isLetter
  · rw [equal]
    exact isSettled_encodeText kind piece whole notDot notDoubleDot

theorem mem_pop (stack : List String) (segment : String) (inside : segment ∈ pop stack) :
    segment ∈ stack := by
  rw [pop] at inside
  split at inside
  · exact inside
  · exact List.mem_of_mem_dropLast inside

/-- What holds of the segments below, of the empty segment and of every written segment holds of
all segments of the walk. -/
theorem forall_mem_walk (kind : SchemeKind) (holds : String → Prop) (empty : holds "")
    (pieces : List (List Char))
    (written : ∀ piece ∈ pieces, isDot piece = false → isDoubleDot piece = false →
      holds (escape kind piece))
    (stack : List String) (below : ∀ segment ∈ stack, holds segment) :
    ∀ segment ∈ walk kind stack pieces, holds segment := by
  induction pieces generalizing stack with
  | nil => simpa [walk] using below
  | cons piece rest inductionHypothesis =>
    have next := inductionHypothesis fun other inside =>
      written other (List.mem_cons_of_mem _ inside)
    have closed (reached : List String) (each : ∀ segment ∈ reached, holds segment) :
        ∀ segment ∈ if rest.isEmpty then reached ++ [""] else reached, holds segment := by
      split
      · simpa [or_imp, forall_and, empty] using each
      · exact each
    rw [walk]
    split
    case isTrue => exact next _ (closed _ fun segment inside => below segment (mem_pop _ _ inside))
    case isFalse notDoubleDot =>
      split
      case isTrue => exact next _ (closed _ below)
      case isFalse notDot =>
        refine next _ fun segment inside => ?_
        obtain before | here := List.mem_append.mp inside
        · exact below segment before
        · rw [List.mem_singleton.mp here]
          exact written piece (List.mem_cons_self ..) (by simpa using notDot)
            (by simpa using notDoubleDot)

theorem mem_withoutLeadingEmpty (segments : List String) (segment : String)
    (inside : segment ∈ withoutLeadingEmpty segments) : segment ∈ segments ∨ segment = "" := by
  rw [withoutLeadingEmpty] at inside
  split at inside
  · exact .inr (List.mem_singleton.mp inside)
  · exact .inl ((List.dropWhile_suffix _).subset inside)

/-- Reading a path below settled segments gives settled segments. -/
theorem isSettled_of_mem_read (kind : SchemeKind) (stack : List String) (text : List Char)
    (below : ∀ segment ∈ stack, IsSettled kind segment) :
    ∀ segment ∈ read kind stack text, IsSettled kind segment := by
  have walked := forall_mem_walk kind (IsSettled kind) (isSettled_empty kind)
    (splitAt kind.isSlash text)
    (fun piece inside => isSettled_escape kind piece fun character within =>
      (mem_of_mem_splitAt kind.isSlash text piece inside character within).2)
    stack below
  intro segment inside
  rw [read] at inside
  split at inside
  · obtain within | empty := mem_withoutLeadingEmpty _ segment inside
    · exact walked segment within
    · exact empty ▸ isSettled_empty kind
  · exact walked segment inside

end ConfinedHttp.Segments
