import ConfinedHttp.Multidict.HeaderBlock
import ConfinedHttp.Proofs.Text.Splitting
import ConfinedHttp.Proofs.Text.Utf8Reading

namespace ConfinedHttp

section Replacing

/-- This function puts one text in the place of every occurrence of another, from the left. -/
def replaceAll (old new : List Char) : List Char → List Char
  | [] => []
  | character :: rest =>
    if old.isPrefixOf (character :: rest) then
      new ++ replaceAll old new (rest.drop (old.length - 1))
    else character :: replaceAll old new rest
termination_by text => text.length

variable (first : Char) (others new : List Char)

@[simp] theorem replaceAll_nil (old : List Char) : replaceAll old new [] = [] := by
  rw [replaceAll]

theorem replaceAll_append (rest : List Char) :
    replaceAll (first :: others) new (first :: others ++ rest) =
      new ++ replaceAll (first :: others) new rest := by
  rw [List.cons_append, replaceAll, if_pos (by simp)]
  simp

theorem replaceAll_cons (character : Char) (rest : List Char)
    (elsewhere : ¬ first :: others <+: character :: rest) :
    replaceAll (first :: others) new (character :: rest) =
      character :: replaceAll (first :: others) new rest := by
  rw [replaceAll, if_neg (by simpa [List.isPrefixOf_iff_prefix] using elsewhere)]

/-- A text without the first character of what is replaced stays as it is. -/
theorem replaceAll_append_of_notMem (text rest : List Char) (apart : first ∉ text) :
    replaceAll (first :: others) new (text ++ rest) =
      text ++ replaceAll (first :: others) new rest := by
  induction text with
  | nil => rfl
  | cons character more inductionHypothesis =>
    obtain ⟨different, later⟩ := not_or.mp (mt List.mem_cons.mpr apart)
    have elsewhere : ¬ first :: others <+: character :: (more ++ rest) := fun starts =>
      different (List.cons_prefix_cons.mp starts).1
    rw [List.cons_append, replaceAll_cons _ _ _ _ _ elsewhere, inductionHypothesis later,
      List.cons_append]

end Replacing

/-- A break of two characters becomes a line feed before a lone carriage return does. -/
theorem unifyBreaks_eq_replaceAll (text : List Char) :
    unifyBreaks text = replaceAll ['\r'] ['\n'] (replaceAll ['\r', '\n'] ['\n'] text) := by
  induction text using unifyBreaks.induct with
  | case1 => simp [unifyBreaks]
  | case2 rest inductionHypothesis =>
    have pair := replaceAll_append '\r' ['\n'] ['\n'] rest
    have kept := replaceAll_append_of_notMem '\r' [] ['\n'] ['\n']
      (replaceAll ['\r', '\n'] ['\n'] rest) (by decide)
    simp only [List.cons_append, List.nil_append] at pair kept
    rw [unifyBreaks, pair, kept, inductionHypothesis]
  | case3 rest lone inductionHypothesis =>
    have elsewhere : ¬ ['\r', '\n'] <+: '\r' :: rest := by
      rintro ⟨more, equal⟩
      exact lone more (List.cons.inj equal).2.symm
    have replaced := replaceAll_append '\r' [] ['\n'] (replaceAll ['\r', '\n'] ['\n'] rest)
    simp only [List.cons_append, List.nil_append] at replaced
    rw [unifyBreaks, replaceAll_cons _ _ _ _ _ elsewhere, replaced, inductionHypothesis]
    · exact lone
  | case4 character rest notPair notReturn inductionHypothesis =>
    have different : character ≠ '\r' := fun equal => notReturn equal
    have elsewhere (others : List Char) (more : List Char) :
        ¬ '\r' :: others <+: character :: more := fun starts =>
      different (List.cons_prefix_cons.mp starts).1.symm
    rw [unifyBreaks, replaceAll_cons _ _ _ _ _ (elsewhere _ _),
      replaceAll_cons _ _ _ _ _ (elsewhere _ _), inductionHypothesis]
    · exact notPair
    · exact notReturn

/-- A text without the line feed that ends it, if one does. -/
def withoutFinalBreak (text : List Char) : List Char :=
  if text.getLast? = some '\n' then text.dropLast else text

/-- The lines of a text make up the text again, apart from a line feed that ends it. -/
theorem intercalate_lines (text : List Char) :
    ['\n'].intercalate (lines text) = withoutFinalBreak text := by
  have whole (other : List Char) : ['\n'].intercalate (splitAt (· == '\n') other) = other := by
    rw [splitAt_eq_splitOnP]
    exact List.intercalate_splitOn '\n'
  -- The last piece is empty if a line feed ends the text, and otherwise only for the empty text.
  by_cases ends : text.getLast? = some '\n'
  · obtain ⟨front, rfl⟩ := List.getLast?_eq_some_iff.mp ends
    have pieces := splitAt_append_cons (· == '\n') front [] '\n' rfl
    have last : (splitAt (· == '\n') (front ++ ['\n'])).getLast? = some [] := by
      rw [pieces]
      simp [splitAt]
    rw [withoutFinalBreak, if_pos ends, lines, if_pos last, pieces, List.dropLast_concat, splitAt,
      List.dropLast_concat, whole]
  · rw [withoutFinalBreak, if_neg ends]
    by_cases last : (splitAt (· == '\n') text).getLast? = some []
    · obtain ⟨front, pieces⟩ := List.getLast?_eq_some_iff.mp last
      cases front with
      | nil =>
        have empty : text = [] := by rw [← whole text, pieces]; rfl
        rw [empty]
        rfl
      | cons first rest =>
        refine absurd ?_ ends
        rw [← whole text, pieces, intercalate_append _ _ _ (by simp) (by simp)]
        simp
    · rw [lines, if_neg last, whole]

/-- A line holds no break. -/
theorem notMem_of_mem_lines_unifyBreaks (text : List Char) :
    ∀ line ∈ lines (unifyBreaks text), '\r' ∉ line ∧ '\n' ∉ line := by
  have unified : '\r' ∉ unifyBreaks text := by
    induction text using unifyBreaks.induct with
    | case1 => simp [unifyBreaks]
    | case2 rest inductionHypothesis => simpa [unifyBreaks] using inductionHypothesis
    | case3 rest lone inductionHypothesis => simpa [unifyBreaks] using inductionHypothesis
    | case4 character rest notPair notReturn inductionHypothesis =>
      rw [unifyBreaks]
      · simpa [Ne.symm notReturn] using inductionHypothesis
      · exact notPair
      · exact notReturn
  intro line inside
  have piece : line ∈ splitAt (· == '\n') (unifyBreaks text) := by
    rw [lines] at inside
    split at inside
    · exact List.mem_of_mem_dropLast inside
    · exact inside
  have each := mem_of_mem_splitAt (· == '\n') (unifyBreaks text) line piece
  exact ⟨fun isReturn => unified (each '\r' isReturn).1,
    fun isFeed => absurd (each '\n' isFeed).2 (by decide)⟩

section Lines

variable (alone : Char → Bool)

/-- The lines of a text.  A carriage return with a line feed behind it ends a line, and so does each
character that does for this reader. -/
def cutLines : List Char → List (List Char)
  | [] => [[]]
  | '\r' :: '\n' :: rest => [] :: cutLines rest
  | character :: rest =>
    if alone character then [] :: cutLines rest
    else (cutLines rest).modifyHead (character :: ·)

/-- Lines of which the last one goes on as the first of others. -/
def continueLines (front back : List (List Char)) : List (List Char) :=
  front.dropLast ++ (front.getLastD [] ++ back.headD []) :: back.tail

theorem cutLines_ne_nil (text : List Char) : cutLines alone text ≠ [] := by
  fun_induction cutLines alone text <;> simp_all

theorem continueLines_cons (line : List Char) (front back : List (List Char)) (some : front ≠ []) :
    continueLines (line :: front) back = line :: continueLines front back := by
  obtain ⟨next, others, rfl⟩ := List.exists_cons_of_ne_nil some
  simp [continueLines]

theorem continueLines_modifyHead (change : List Char → List Char)
    (changes : ∀ line more, change (line ++ more) = change line ++ more)
    (front back : List (List Char)) (some : front ≠ []) :
    continueLines (front.modifyHead change) back =
      (continueLines front back).modifyHead change := by
  obtain ⟨line, others, rfl⟩ := List.exists_cons_of_ne_nil some
  cases others with
  | nil => simp [continueLines, changes]
  | cons next more => simp [continueLines]

section Apart

variable {character : Char} {rest back : List Char}
  (apart : (character :: rest).getLast? ≠ some '\r' ∨ back.head? ≠ some '\n')

include apart

theorem apart_of_cons : rest.getLast? ≠ some '\r' ∨ back.head? ≠ some '\n' :=
  apart.imp_left fun notReturn isReturn => notReturn (by simp [List.getLast?_cons, isReturn])

/-- No break reaches from one part of a text into the next. -/
theorem not_pair_append (notPair : ∀ more, character = '\r' → rest = '\n' :: more → False) :
    ∀ more, character = '\r' → rest ++ back = '\n' :: more → False := by
  rintro more rfl starts
  cases rest with
  | nil =>
    obtain notReturn | notFeed := apart
    · exact notReturn rfl
    · exact notFeed (by rw [List.nil_append] at starts; rw [starts]; rfl)
  | cons next others =>
    obtain ⟨rfl, -⟩ := List.cons.inj starts
    exact notPair others rfl rfl

end Apart

/-- A text that is not cut inside a break is cut into the lines of its two parts. -/
theorem cutLines_append (front back : List Char)
    (apart : front.getLast? ≠ some '\r' ∨ back.head? ≠ some '\n') :
    cutLines alone (front ++ back) =
      continueLines (cutLines alone front) (cutLines alone back) := by
  induction front using cutLines.induct alone with
  | case1 =>
    obtain ⟨line, others, equal⟩ := List.exists_cons_of_ne_nil (cutLines_ne_nil alone back)
    simp [cutLines, continueLines, equal]
  | case2 rest inductionHypothesis =>
    have later := inductionHypothesis (apart_of_cons (apart_of_cons apart))
    rw [List.cons_append, List.cons_append, cutLines, cutLines, later,
      continueLines_cons _ _ _ (cutLines_ne_nil alone rest)]
  | case3 character rest notPair ends inductionHypothesis =>
    have later := inductionHypothesis (apart_of_cons apart)
    rw [List.cons_append, cutLines, if_pos ends, cutLines, if_pos ends, later,
      continueLines_cons _ _ _ (cutLines_ne_nil alone rest)]
    · exact notPair
    · exact not_pair_append apart notPair
  | case4 character rest notPair continues inductionHypothesis =>
    have later := inductionHypothesis (apart_of_cons apart)
    rw [List.cons_append, cutLines, if_neg continues, cutLines, if_neg continues, later,
      continueLines_modifyHead _ (fun _ _ => rfl) _ _ (cutLines_ne_nil alone rest)]
    · exact notPair
    · exact not_pair_append apart notPair

theorem continueLines_nil_cons (front back : List (List Char)) (some : front ≠ []) :
    continueLines front ([] :: back) = front ++ back := by
  obtain ⟨others, line, rfl⟩ := List.eq_nil_or_concat front |>.resolve_left some
  simp [continueLines]

/-- A break parts the lines before it from those behind it. -/
theorem cutLines_append_break (front back : List Char) :
    cutLines alone (front ++ '\r' :: '\n' :: back) =
      cutLines alone front ++ cutLines alone back := by
  rw [cutLines_append alone front _ (.inr (by simp)), cutLines,
    continueLines_nil_cons _ _ (cutLines_ne_nil alone front)]

variable (breaks : ∀ character, alone character = true → character = '\r' ∨ character = '\n')

include breaks

/-- A text without breaks is one line. -/
theorem cutLines_of_clean (text : List Char) (clean : '\r' ∉ text ∧ '\n' ∉ text) :
    cutLines alone text = [text] := by
  induction text with
  | nil => rfl
  | cons character rest inductionHypothesis =>
    obtain ⟨notReturn, laterReturn⟩ := not_or.mp (mt List.mem_cons.mpr clean.1)
    obtain ⟨notFeed, laterFeed⟩ := not_or.mp (mt List.mem_cons.mpr clean.2)
    have continues : ¬ alone character = true := fun ends =>
      (breaks character ends).elim (Ne.symm notReturn) (Ne.symm notFeed)
    rw [cutLines, if_neg continues, inductionHypothesis ⟨laterReturn, laterFeed⟩]
    · rfl
    · exact fun _ isReturn _ => notReturn isReturn.symm

end Lines

namespace Multidict

/-- Line feeds in the place of folds. -/
theorem replaceAll_intercalate_fold (pieces : List (List Char))
    (clean : ∀ piece ∈ pieces, '\r' ∉ piece ∧ '\n' ∉ piece) :
    replaceAll fold ['\n'] (fold.intercalate pieces) = ['\n'].intercalate pieces := by
  induction pieces with
  | nil => simp
  | cons piece rest inductionHypothesis =>
    obtain ⟨⟨noReturn, -⟩, later⟩ := List.forall_mem_cons.mp clean
    cases rest with
    | nil =>
      have alone := replaceAll_append_of_notMem '\r' ['\n', ' '] ['\n'] piece [] noReturn
      simpa [fold] using alone
    | cons next others =>
      rw [List.intercalate_cons_cons, List.intercalate_cons_cons, List.append_assoc,
        List.append_assoc, ← inductionHypothesis later]
      exact (replaceAll_append_of_notMem '\r' ['\n', ' '] ['\n'] piece _ noReturn).trans
        (congrArg _ (replaceAll_append '\r' ['\n', ' '] ['\n'] _))

/-- Every piece but the first starts with the blank of a fold. -/
theorem cutLines_intercalate_fold (alone : Char → Bool)
    (breaks : ∀ character, alone character = true → character = '\r' ∨ character = '\n')
    (first : List Char) (more : List (List Char))
    (clean : ∀ piece ∈ first :: more, '\r' ∉ piece ∧ '\n' ∉ piece) :
    cutLines alone (fold.intercalate (first :: more)) = first :: more.map (' ' :: ·) := by
  induction more generalizing first with
  | nil =>
    rw [List.intercalate_singleton, cutLines_of_clean alone breaks first (clean first (by simp))]
    rfl
  | cons next others inductionHypothesis =>
    obtain ⟨cleanFirst, cleanNext, cleanOthers⟩ :
        ('\r' ∉ first ∧ '\n' ∉ first) ∧ ('\r' ∉ next ∧ '\n' ∉ next) ∧
          ∀ piece ∈ others, '\r' ∉ piece ∧ '\n' ∉ piece := by
      simpa using clean
    have indented : ' ' :: fold.intercalate (next :: others) =
        fold.intercalate ((' ' :: next) :: others) := by
      cases others <;> simp [List.intercalate_cons_cons]
    have later := inductionHypothesis (' ' :: next)
      (List.forall_mem_cons.mpr ⟨by simpa using cleanNext, cleanOthers⟩)
    have whole : fold.intercalate (first :: next :: others) =
        first ++ '\r' :: '\n' :: fold.intercalate ((' ' :: next) :: others) := by
      rw [List.intercalate_cons_cons, ← indented, List.append_assoc]
      rfl
    rw [whole, cutLines_append_break, later, cutLines_of_clean alone breaks first cleanFirst]
    rfl

/-- Every break of a text stands in a fold. -/
structure BreaksOnlyInFolds (text : List Char) : Prop where
  carriageReturn : ∀ before after, text = before ++ '\r' :: after → ['\n', ' '] <+: after
  lineFeed : ∀ before after, text = before ++ '\n' :: after → ['\r'] <:+ before ∧ [' '] <+: after

theorem breaksOnlyInFolds_nil : BreaksOnlyInFolds [] :=
  ⟨fun _ _ whole => by simp at whole, fun _ _ whole => by simp at whole⟩

theorem BreaksOnlyInFolds.cons {character : Char} {text : List Char}
    (later : BreaksOnlyInFolds text) (clean : character ≠ '\r' ∧ character ≠ '\n') :
    BreaksOnlyInFolds (character :: text) := by
  constructor
  · intro before after whole
    cases before with
    | nil => exact absurd (List.cons.inj whole).1 clean.1
    | cons _ rest => exact later.carriageReturn rest after (List.cons.inj whole).2
  · intro before after whole
    cases before with
    | nil => exact absurd (List.cons.inj whole).1 clean.2
    | cons first rest =>
      obtain ⟨isSuffix, isPrefix⟩ := later.lineFeed rest after (List.cons.inj whole).2
      exact ⟨isSuffix.trans (List.suffix_cons first rest), isPrefix⟩

/-- A fold can go before a text. -/
theorem BreaksOnlyInFolds.fold_append {text : List Char} (later : BreaksOnlyInFolds text) :
    BreaksOnlyInFolds (fold ++ text) := by
  have blank : BreaksOnlyInFolds (' ' :: text) := later.cons (by decide)
  have whole : fold ++ text = '\r' :: '\n' :: ' ' :: text := rfl
  rw [whole]
  -- A break stands at a place of the fold itself or behind it.
  constructor
  · intro before after equal
    match before with
    | [] => simp [← (List.cons.inj equal).2]
    | [_] => simp at equal
    | _ :: _ :: rest =>
      exact blank.carriageReturn rest after (List.cons.inj (List.cons.inj equal).2).2
  · intro before after equal
    match before with
    | [] => simp at equal
    | [first] =>
      obtain ⟨rfl, rfl⟩ : '\r' = first ∧ ' ' :: text = after := by simpa using equal
      simp
    | first :: second :: rest =>
      obtain ⟨isSuffix, isPrefix⟩ :=
        blank.lineFeed rest after (List.cons.inj (List.cons.inj equal).2).2
      exact ⟨isSuffix.trans ((List.suffix_cons second rest).trans (List.suffix_cons first _)),
        isPrefix⟩

theorem BreaksOnlyInFolds.append {text : List Char} (later : BreaksOnlyInFolds text)
    (piece : List Char) (clean : '\r' ∉ piece ∧ '\n' ∉ piece) :
    BreaksOnlyInFolds (piece ++ text) := by
  induction piece with
  | nil => exact later
  | cons character rest inductionHypothesis =>
    obtain ⟨notReturn, laterReturn⟩ := not_or.mp (mt List.mem_cons.mpr clean.1)
    obtain ⟨notFeed, laterFeed⟩ := not_or.mp (mt List.mem_cons.mpr clean.2)
    exact (inductionHypothesis ⟨laterReturn, laterFeed⟩).cons ⟨Ne.symm notReturn, Ne.symm notFeed⟩

theorem breaksOnlyInFolds_intercalate (pieces : List (List Char))
    (clean : ∀ piece ∈ pieces, '\r' ∉ piece ∧ '\n' ∉ piece) :
    BreaksOnlyInFolds (fold.intercalate pieces) := by
  induction pieces with
  | nil => exact breaksOnlyInFolds_nil
  | cons piece rest inductionHypothesis =>
    obtain ⟨cleanPiece, cleanRest⟩ := List.forall_mem_cons.mp clean
    cases rest with
    | nil => simpa using breaksOnlyInFolds_nil.append piece cleanPiece
    | cons next others =>
      rw [List.intercalate_cons_cons, List.append_assoc]
      exact (inductionHypothesis cleanRest).fold_append.append piece cleanPiece

/-- A folded value with a line feed for each fold is the value with a line feed for each break, and
without the one that ends it. -/
theorem replaceAll_foldValue (value : String) :
    replaceAll fold ['\n'] (foldValue value) = withoutFinalBreak
      (replaceAll ['\r'] ['\n'] (replaceAll ['\r', '\n'] ['\n'] value.toList)) := by
  rw [foldValue, replaceAll_intercalate_fold _ (notMem_of_mem_lines_unifyBreaks value.toList),
    intercalate_lines, unifyBreaks_eq_replaceAll]

section Reader

variable (alone : Char → Bool)

/-- A line up to the first colon with a blank behind it, where a value starts. -/
def heading : List Char → List Char
  | [] => []
  | ':' :: ' ' :: _ => [':', ' ']
  | character :: rest => character :: heading rest

/-- What lines say that do not go on with a value of the line before. -/
def headingsOf (lines : List (List Char)) : List (List Char) :=
  (lines.filter (·.head? ≠ some ' ')).map heading

/-- The lines that are read from the bytes of a header block. -/
def blockLines (block : Bytes) : List (List Char) := cutLines alone (Utf8.decodeLossy block)

theorem headingsOf_append (front back : List (List Char)) :
    headingsOf (front ++ back) = headingsOf front ++ headingsOf back := by
  rw [headingsOf, List.filter_append, List.map_append]
  rfl

/-- A value is no part of its heading. -/
theorem heading_append (name value : List Char) :
    heading (name ++ ':' :: ' ' :: value) = heading (name ++ [':', ' ']) := by
  induction name using heading.induct with
  | case1 => rfl
  | case2 => rfl
  | case3 character rest notMark inductionHypothesis =>
    have apart (more : List Char) :
        ∀ others, character = ':' → rest ++ ':' :: more = ' ' :: others → False := by
      rintro others rfl starts
      cases rest with
      | nil => simp at starts
      | cons next behind =>
        obtain ⟨rfl, -⟩ := List.cons.inj starts
        exact notMark behind rfl rfl
    rw [List.cons_append, heading, List.cons_append, heading, inductionHypothesis]
    · exact apart _
    · exact apart _

/-- The lines of the text before a value say the same with the value behind it, if each further line
of the value starts with a blank. -/
theorem headingsOf_continueLines (front : List (List Char)) (name : List Char)
    (back : List (List Char)) (indented : ∀ line ∈ back.tail, line.head? = some ' ') :
    headingsOf (continueLines (front ++ [name ++ [':', ' ']]) back) =
      headingsOf (front ++ [name ++ [':', ' ']]) := by
  have tail : headingsOf back.tail = [] := by
    rw [headingsOf, List.filter_eq_nil_iff.mpr fun line inside => by simp [indented line inside]]
    rfl
  have own :
      headingsOf [name ++ ':' :: ' ' :: back.headD []] = headingsOf [name ++ [':', ' ']] := by
    have first : (name ++ ':' :: ' ' :: back.headD []).head? = (name ++ [':', ' ']).head? := by
      cases name <;> rfl
    simp only [headingsOf, List.filter_cons, first, List.filter_nil]
    split
    · simp only [List.map_cons, heading_append name (back.headD [])]
    · rfl
  have lines : continueLines (front ++ [name ++ [':', ' ']]) back =
      front ++ ([name ++ ':' :: ' ' :: back.headD []] ++ back.tail) := by
    simp [continueLines]
  rw [lines, headingsOf_append, headingsOf_append, headingsOf_append, tail, own, List.append_nil]

/-- The lines of a header block are those of its names, which go on with those of their values.
Then the block ends. -/
theorem blockLines_headerBlock (dict : Multidict) :
    blockLines alone dict.headerBlock =
      (dict.pairs.flatMap fun pair =>
        continueLines (cutLines alone (pair.1 ++ ": ").toList)
          (cutLines alone (foldValue pair.2))) ++ [[], []] := by
  rw [blockLines, headerBlock, Utf8.decodeLossy_encode]
  induction dict.pairs with
  | nil => simp [cutLines]
  | cons pair rest inductionHypothesis =>
    have block : (pair :: rest).flatMap headerLine ++ ['\r', '\n'] =
        ((pair.1 ++ ": ").toList ++ foldValue pair.2) ++
          '\r' :: '\n' :: (rest.flatMap headerLine ++ ['\r', '\n']) := by
      simp [headerLine]
    rw [block, cutLines_append_break, inductionHypothesis,
      cutLines_append alone (pair.1 ++ ": ").toList _ (.inl (by simp)), List.flatMap_cons,
      List.append_assoc]

variable (breaks : ∀ character, alone character = true → character = '\r' ∨ character = '\n')

include breaks

/-- Every line that a value adds starts with a blank. -/
theorem head?_of_mem_tail_cutLines_foldValue (value : String) :
    ∀ line ∈ (cutLines alone (foldValue value)).tail, line.head? = some ' ' := by
  have clean := notMem_of_mem_lines_unifyBreaks value.toList
  rw [foldValue]
  cases pieces : lines (unifyBreaks value.toList) with
  | nil => simp [cutLines]
  | cons first more =>
    rw [pieces] at clean
    rw [cutLines_intercalate_fold alone breaks first more clean]
    simp

/-- The last line of a name goes on with its value. -/
theorem exists_cutLines_name (name : String) :
    ∃ front last, cutLines alone (name ++ ": ").toList = front ++ [last ++ [':', ' ']] := by
  have own := cutLines_append alone name.toList [':', ' '] (.inr (by decide))
  rw [cutLines_of_clean alone breaks [':', ' '] (by decide)] at own
  rw [String.toList_append]
  exact ⟨_, _, own⟩

/-- A header block says what its names say, and ends once. -/
theorem headingsOf_blockLines (dict : Multidict) :
    headingsOf (blockLines alone dict.headerBlock) =
      ((dict.pairs.map (·.1)).flatMap fun name =>
        headingsOf (cutLines alone (name ++ ": ").toList)) ++ [[], []] := by
  rw [blockLines_headerBlock, headingsOf_append, List.flatMap_map]
  congr 1
  induction dict.pairs with
  | nil => rfl
  | cons pair rest inductionHypothesis =>
    obtain ⟨front, last, own⟩ := exists_cutLines_name alone breaks pair.1
    rw [List.flatMap_cons, List.flatMap_cons, headingsOf_append, inductionHypothesis, own,
      headingsOf_continueLines _ _ _ (head?_of_mem_tail_cutLines_foldValue alone breaks pair.2)]

end Reader

/-- A header block holds each name with its folded value, in order, and an empty line.  In a folded
value, every break stands in a fold, and without folds it is the value with all breaks written alike
and no break at its end.  So, wherever a reader ends lines, each line that a value adds starts with
a blank, and the other lines say what the names say: a value starts no header and does not end the
block, and two lists with the same names differ only in what stands behind their names and in the
lines that their values add. -/
theorem headerBlock_folded (dict : Multidict) :
    dict.headerBlock =
        (dict.pairs.flatMap fun pair =>
          textBytes pair.1 ++ textBytes ": " ++ Utf8.encode (foldValue pair.2) ++
            textBytes "\r\n") ++ textBytes "\r\n" ∧
      (∀ value, BreaksOnlyInFolds (foldValue value)) ∧
      (∀ value : String, replaceAll fold ['\n'] (foldValue value) = withoutFinalBreak
        (replaceAll ['\r'] ['\n'] (replaceAll ['\r', '\n'] ['\n'] value.toList))) ∧
      ∀ alone : Char → Bool,
        (∀ character, alone character = true → character = '\r' ∨ character = '\n') →
        blockLines alone dict.headerBlock =
            (dict.pairs.flatMap fun pair =>
              continueLines (cutLines alone (pair.1 ++ ": ").toList)
                (cutLines alone (foldValue pair.2))) ++ [[], []] ∧
          (∀ value, ∀ line ∈ (cutLines alone (foldValue value)).tail, line.head? = some ' ') ∧
          headingsOf (blockLines alone dict.headerBlock) =
            ((dict.pairs.map (·.1)).flatMap fun name =>
              headingsOf (cutLines alone (name ++ ": ").toList)) ++ [[], []] ∧
          ∀ other : Multidict, other.pairs.map (·.1) = dict.pairs.map (·.1) →
            headingsOf (blockLines alone other.headerBlock) =
              headingsOf (blockLines alone dict.headerBlock) := by
  refine ⟨?_, fun value => ?_, replaceAll_foldValue, fun alone breaks =>
    ⟨blockLines_headerBlock alone dict, head?_of_mem_tail_cutLines_foldValue alone breaks,
      headingsOf_blockLines alone breaks dict, fun other same => ?_⟩⟩
  · rw [headerBlock, Utf8.encode_append]
    congr 1
    rw [Utf8.encode, List.flatMap_assoc]
    apply List.flatMap_congr
    intro pair _
    have line : headerLine pair =
        pair.1.toList ++ ": ".toList ++ foldValue pair.2 ++ "\r\n".toList := by
      simp [headerLine]
    rw [line, ← Utf8.encode, Utf8.encode_append, Utf8.encode_append, Utf8.encode_append]
    rfl
  · exact breaksOnlyInFolds_intercalate _ (notMem_of_mem_lines_unifyBreaks value.toList)
  · rw [headingsOf_blockLines alone breaks other, same, headingsOf_blockLines alone breaks dict]

/-- Neither a forged header nor an early end of the block gets through, also to a reader for whom a
line feed alone ends a line. -/
theorem headerBlock_folded_forged :
    let forged : Multidict := ⟨[("X-A", "v\r\r\nX-C: 1\n"), ("X-B", "\r\n\r\nX-D: 2")]⟩
    let plain : Multidict := ⟨[("X-A", "v"), ("X-B", "")]⟩
    (∀ character, (character == '\n') = true → character = '\r' ∨ character = '\n') ∧
      forged.pairs.map (·.1) = plain.pairs.map (·.1) ∧
      headingsOf (blockLines (· == '\n') forged.headerBlock) =
        ["X-A: ".toList, "X-B: ".toList, [], []] ∧
      headingsOf (blockLines (· == '\n') plain.headerBlock) =
        headingsOf (blockLines (· == '\n') forged.headerBlock) := by
  intro forged plain
  have breaks : ∀ character : Char, (character == '\n') = true →
      character = '\r' ∨ character = '\n' := fun character ends => .inr (by simpa using ends)
  obtain ⟨-, -, headings, same⟩ := (headerBlock_folded forged).2.2.2 (· == '\n') breaks
  exact ⟨breaks, rfl, headings.trans (by decide +kernel), same plain rfl⟩

end Multidict

end ConfinedHttp
