import ConfinedHttp.Proofs.Url.DirectoryRereading

namespace ConfinedHttp

theorem isReferenceSlash_iff (character : Char) :
    isReferenceSlash character = true ↔ character = '/' ∨ character = '\\' := by
  simp [isReferenceSlash]

/-- A letter, further scheme characters and a colon stand at the start. -/
def NamesScheme (text : List Char) : Prop :=
  ∃ first word, first :: word ++ [':'] <+: text ∧ first.isAlpha = true ∧
    ∀ character ∈ word, isSchemeCharacter character = true

/-- Two slashes of either kind stand at the start. -/
def NamesAuthority (text : List Char) : Prop :=
  ∃ first second, [first, second] <+: text ∧ isReferenceSlash first = true ∧
    isReferenceSlash second = true

/-- A scheme or an authority names another place. -/
def NamesElsewhere (text : List Char) : Prop := NamesScheme text ∨ NamesAuthority text

/-- A slash of either kind stands at the start. -/
def StartsAtRoot (text : List Char) : Prop :=
  ∃ first, [first] <+: text ∧ isReferenceSlash first = true

theorem isSchemeCharacter_of_isAlpha (character : Char) (letter : character.isAlpha = true) :
    isSchemeCharacter character = true := by
  simp [isSchemeCharacter, Char.isAlphanum, letter]

/-- A reader of schemes finds one exactly when a text names one. -/
theorem isSome_readScheme_iff (text : List Char) :
    (readScheme? text).isSome ↔ NamesScheme text := by
  constructor
  · intro found
    rw [readScheme?.eq_def] at found
    split at found
    · cases found
    case h_2 first others =>
      split at found
      case isFalse => cases found
      case isTrue letter =>
        split at found
        case h_1 rest stopped =>
          have isScheme := isSchemeCharacter_of_isAlpha first letter
          refine ⟨first, others.takeWhile isSchemeCharacter, ⟨rest, ?_⟩, letter,
            fun character inside => List.mem_takeWhile_imp inside⟩
          rw [List.dropWhile_cons_of_pos isScheme] at stopped
          rw [List.append_assoc, List.cons_append, List.singleton_append, ← stopped,
            List.takeWhile_append_dropWhile]
        case h_2 => cases found
  · rintro ⟨first, word, ⟨rest, rfl⟩, letter, isWord⟩
    have isScheme : ∀ character ∈ first :: word, isSchemeCharacter character = true :=
      List.forall_mem_cons.mpr ⟨isSchemeCharacter_of_isAlpha first letter, isWord⟩
    have stopped : (first :: (word ++ ':' :: rest)).dropWhile isSchemeCharacter = ':' :: rest := by
      rw [← List.cons_append, List.dropWhile_append_of_pos isScheme]
      rfl
    simp [readScheme?, letter, stopped]

/-- The test for a scheme before the first colon finds one exactly when a text names one. -/
theorem hasScheme_iff (text : List Char) : Prefix.hasScheme text = true ↔ NamesScheme text := by
  constructor
  · intro found
    rw [Prefix.hasScheme.eq_def] at found
    split at found
    · cases found
    case h_2 first word front =>
      simp only [Bool.and_eq_true, List.contains_eq_mem, decide_eq_true_eq,
        List.all_eq_true] at found
      obtain ⟨⟨inside, letter⟩, isWord⟩ := found
      obtain ⟨rest, stopped⟩ : ∃ rest, text.dropWhile (· != ':') = ':' :: rest := by
        cases equal : text.dropWhile (· != ':') with
        | nil => simpa using List.dropWhile_eq_nil_iff.mp equal ':' inside
        | cons next rest =>
          have isColon := List.head?_dropWhile_not (· != ':') text
          rw [equal] at isColon
          exact ⟨rest, by simpa using isColon⟩
      refine ⟨first, word, ⟨rest, ?_⟩, letter, isWord⟩
      rw [List.append_assoc, List.singleton_append, ← front, ← stopped,
        List.takeWhile_append_dropWhile]
  · rintro ⟨first, word, ⟨rest, rfl⟩, letter, isWord⟩
    have noColon : ∀ character ∈ first :: word, (character != ':') = true := by
      refine List.forall_mem_cons.mpr ⟨?_, fun character inside => ?_⟩
      · rw [bne_iff_ne]
        rintro rfl
        cases letter
      · rw [bne_iff_ne]
        rintro rfl
        cases isWord ':' inside
    have front : (first :: (word ++ ':' :: rest)).takeWhile (· != ':') = first :: word := by
      rw [← List.cons_append, List.takeWhile_append_of_pos noColon]
      simp
    simpa [Prefix.hasScheme, front, letter] using isWord

theorem namesAuthority_cons (first : Char) (rest : List Char) :
    NamesAuthority (first :: rest) ↔
      isReferenceSlash first = true ∧ rest.head?.any isReferenceSlash = true := by
  constructor
  · rintro ⟨_, second, ⟨others, equal⟩, isSlash, alsoSlash⟩
    cases equal
    exact ⟨isSlash, by simpa using alsoSlash⟩
  · rintro ⟨isSlash, alsoSlash⟩
    cases rest with
    | nil => cases alsoSlash
    | cons second others => exact ⟨first, second, ⟨others, rfl⟩, isSlash, by simpa using alsoSlash⟩

theorem startsAtRoot_cons (first : Char) (rest : List Char) :
    StartsAtRoot (first :: rest) ↔ isReferenceSlash first = true := by
  constructor
  · rintro ⟨_, ⟨others, equal⟩, isSlash⟩
    cases equal
    exact isSlash
  · exact fun isSlash => ⟨first, ⟨rest, rfl⟩, isSlash⟩

/-- What a parser takes a text for when nothing is left to remove from it. -/
def kindOfText (text : List Char) : Prefix.ReferenceKind :=
  match readScheme? text with
  | some _ => .foreign
  | none => (Reference.relative (RelativeReference.read text)).kind

theorem kind_read (reference : String) :
    (Reference.read reference).kind = kindOfText (Url.clean reference.toList) := by
  rw [Reference.read, kindOfText]
  split <;> simp_all [Reference.kind]

/-- Without a scheme, the first two characters tell what a reference names. -/
theorem kind_relative_read (text : List Char) :
    ((Reference.relative (RelativeReference.read text)).kind = .foreign ↔ NamesAuthority text) ∧
      ((Reference.relative (RelativeReference.read text)).kind = .rooted ↔
        ¬ NamesAuthority text ∧ StartsAtRoot text) := by
  fun_cases RelativeReference.read text with
  | case1 => simp [Reference.kind, NamesAuthority, StartsAtRoot]
  | case2 => simp [Reference.kind, namesAuthority_cons, startsAtRoot_cons, isReferenceSlash]
  | case3 => simp [Reference.kind, namesAuthority_cons, startsAtRoot_cons, isReferenceSlash]
  | case4 first rest _ _ isSlash alsoSlash =>
    simp [Reference.kind, namesAuthority_cons, isSlash, alsoSlash]
  | case5 first rest _ _ isSlash single =>
    simp [Reference.kind, namesAuthority_cons, startsAtRoot_cons, isSlash, single]
  | case6 first rest _ _ noSlash =>
    simp [Reference.kind, namesAuthority_cons, startsAtRoot_cons, noSlash]

theorem kindOfText_eq_foreign_iff (text : List Char) :
    kindOfText text = .foreign ↔ NamesElsewhere text := by
  rw [NamesElsewhere, ← isSome_readScheme_iff, kindOfText]
  split
  case h_1 found => simp [found]
  case h_2 absent => simp [absent, (kind_relative_read text).1]

theorem kindOfText_eq_rooted_iff (text : List Char) :
    kindOfText text = .rooted ↔ ¬ NamesElsewhere text ∧ StartsAtRoot text := by
  rw [NamesElsewhere, ← isSome_readScheme_iff, kindOfText]
  split
  case h_1 found => simp [found]
  case h_2 absent => simp [absent, (kind_relative_read text).2]

/-- What is neither foreign nor rooted is relative. -/
theorem kindOfText_eq_relative_iff (text : List Char) :
    kindOfText text = .relative ↔ ¬ NamesElsewhere text ∧ ¬ StartsAtRoot text := by
  have isForeign := kindOfText_eq_foreign_iff text
  have isRooted := kindOfText_eq_rooted_iff text
  cases equal : kindOfText text <;> simp_all

/-- Two slashes of different kinds stand at the start. -/
def MixesSlashes (text : List Char) : Prop := ['/', '\\'] <+: text ∨ ['\\', '/'] <+: text

instance (text : List Char) : Decidable (MixesSlashes text) := inferInstanceAs (Decidable (_ ∨ _))

/-- A text that names a scheme starts with a letter. -/
theorem not_mixesSlashes_of_namesScheme (text : List Char) (scheme : NamesScheme text) :
    ¬ MixesSlashes text := by
  obtain ⟨first, word, ⟨rest, rfl⟩, letter, -⟩ := scheme
  rintro (⟨others, equal⟩ | ⟨others, equal⟩) <;>
    rw [← (List.cons.inj equal).1] at letter <;> cases letter

/-- A mixed pair of slashes counts as one slash.  Every other text is taken as a parser takes it. -/
theorem classify_eq (path : List Char) :
    Prefix.classify path =
      if MixesSlashes (Prefix.bare path) then .rooted else kindOfText (Prefix.bare path) := by
  rw [Prefix.classify]
  generalize Prefix.bare path = text
  by_cases scheme : NamesScheme text
  case pos =>
    have foreign := (kindOfText_eq_foreign_iff text).mpr (.inl scheme)
    simp [(hasScheme_iff text).mpr scheme, not_mixesSlashes_of_namesScheme text scheme, foreign]
  case neg =>
    have noScheme : Prefix.hasScheme text = false := by
      simpa using (hasScheme_iff text).not.mpr scheme
    have notRead : readScheme? text = none := by
      simpa using (isSome_readScheme_iff text).not.mpr scheme
    rw [kindOfText, noScheme, notRead]
    fun_cases RelativeReference.read text with
    | case1 => simp [Reference.kind, MixesSlashes]
    | case2 => simp [Reference.kind, MixesSlashes]
    | case3 => simp [Reference.kind, MixesSlashes]
    | case4 first rest _ _ isSlash alsoSlash =>
      cases rest with
      | nil => cases alsoSlash
      | cons second others =>
        simp only [List.head?_cons, Option.any_some, isReferenceSlash_iff] at isSlash alsoSlash
        rcases isSlash with rfl | rfl <;> rcases alsoSlash with rfl | rfl <;>
          simp [Reference.kind, MixesSlashes]
    | case5 first rest _ _ isSlash single =>
      cases rest with
      | nil =>
        rcases (isReferenceSlash_iff first).mp isSlash with rfl | rfl <;>
          simp [Reference.kind, MixesSlashes]
      | cons second others =>
        simp only [List.head?_cons, Option.any_some, isReferenceSlash_iff, not_or] at isSlash single
        rcases isSlash with rfl | rfl <;> simp [Reference.kind, MixesSlashes, single, Ne.symm]
    | case6 first rest _ _ noSlash =>
      simp only [isReferenceSlash_iff, not_or] at noSlash
      simp [Reference.kind, MixesSlashes, noSlash, Ne.symm]

/-- What a parser leaves of the start of a reference: no controls and spaces in front, and no tabs
and line breaks. -/
def stripped (path : List Char) : List Char :=
  (path.dropWhile (· ≤ ' ')).filter fun character =>
    !(character == '\t' || character == '\n' || character == '\r')

/-- A parser also removes controls and spaces at the end. -/
theorem exists_stripped_eq (path : List Char) :
    ∃ blanks, stripped path = Url.clean path ++ blanks ∧ ∀ character ∈ blanks, character ≤ ' ' := by
  let visible (character : Char) : Bool :=
    !(character == '\t' || character == '\n' || character == '\r')
  let kept := (path.dropWhile (· ≤ ' ')).reverse
  refine ⟨((kept.takeWhile (· ≤ ' ')).reverse).filter visible, ?_, fun character inside => ?_⟩
  · have parted : kept.takeWhile (· ≤ ' ') ++ kept.dropWhile (· ≤ ' ') = kept :=
      List.takeWhile_append_dropWhile
    have whole := congrArg List.reverse parted
    rw [List.reverse_append, List.reverse_reverse] at whole
    rw [stripped, Url.clean, trimEnds, ← List.filter_append, whole]
  · have inFront := List.mem_reverse.mp (List.mem_filter.mp inside).1
    simpa using List.mem_takeWhile_imp inFront

/-- Controls and spaces at the end cannot complete what starts with a visible end. -/
theorem isPrefix_append_blanks_iff (front text blanks : List Char) (last : Char)
    (isVisible : ¬ last ≤ ' ') (blank : ∀ character ∈ blanks, character ≤ ' ') :
    front ++ [last] <+: text ++ blanks ↔ front ++ [last] <+: text := by
  constructor
  · intro within
    obtain inText | ⟨more, some, equal, inBlanks⟩ := isPrefix_append_cases within
    · exact inText
    · have isLast : last ∈ more := by
        have ending := congrArg List.getLast? equal
        rw [List.getLast?_concat, List.getLast?_append_of_ne_nil _ some] at ending
        exact List.mem_of_getLast? ending.symm
      exact absurd (blank last (inBlanks.subset isLast)) isVisible
  · exact List.prefix_append_of_prefix

theorem kindOfText_append_blanks (text blanks : List Char)
    (blank : ∀ character ∈ blanks, character ≤ ' ') :
    kindOfText (text ++ blanks) = kindOfText text := by
  have isVisible (slash : Char) (isSlash : isReferenceSlash slash = true) : ¬ slash ≤ ' ' := by
    rcases (isReferenceSlash_iff slash).mp isSlash with rfl | rfl <;> decide
  have scheme : NamesScheme (text ++ blanks) ↔ NamesScheme text := by
    simp only [NamesScheme, isPrefix_append_blanks_iff _ text blanks ':' (by decide) blank]
  have authority : NamesAuthority (text ++ blanks) ↔ NamesAuthority text := by
    refine exists_congr fun first => exists_congr fun second => and_congr_left fun slashes => ?_
    exact isPrefix_append_blanks_iff [first] text blanks second (isVisible second slashes.2) blank
  have root : StartsAtRoot (text ++ blanks) ↔ StartsAtRoot text := by
    refine exists_congr fun first => and_congr_left fun isSlash => ?_
    exact isPrefix_append_blanks_iff [] text blanks first (isVisible first isSlash) blank
  have elsewhere : NamesElsewhere (text ++ blanks) ↔ NamesElsewhere text :=
    or_congr scheme authority
  cases equal : kindOfText text with
  | foreign => rwa [kindOfText_eq_foreign_iff, elsewhere, ← kindOfText_eq_foreign_iff]
  | rooted => rwa [kindOfText_eq_rooted_iff, elsewhere, root, ← kindOfText_eq_rooted_iff]
  | relative => rwa [kindOfText_eq_relative_iff, elsewhere, root, ← kindOfText_eq_relative_iff]

/-- Trailing controls and spaces do not change what a parser takes a reference for. -/
theorem kind_read_eq_kindOfText_stripped (reference : String) :
    (Reference.read reference).kind = kindOfText (stripped reference.toList) := by
  obtain ⟨blanks, equal, blank⟩ := exists_stripped_eq reference.toList
  rw [kind_read, equal, kindOfText_append_blanks _ blanks blank]

/-- A delete character stands among the controls and spaces at the start. -/
def LeadsWithDelete (path : List Char) : Prop :=
  '\x7f' ∈ path.takeWhile fun character => character ≤ ' ' || character == '\x7f'

instance (path : List Char) : Decidable (LeadsWithDelete path) :=
  inferInstanceAs (Decidable (_ ∈ _))

/-- Only the delete character is removed from the start in one place and kept in the other. -/
theorem bare_eq_stripped (path : List Char) (noDelete : ¬ LeadsWithDelete path) :
    Prefix.bare path = stripped path := by
  rw [Prefix.bare, stripped]
  congr 1
  induction path with
  | nil => rfl
  | cons character rest inductionHypothesis =>
    by_cases blank : character ≤ ' '
    · have tail : ¬ LeadsWithDelete rest := by
        intro delete
        apply noDelete
        simp [LeadsWithDelete, blank] at delete ⊢
        exact .inr delete
      simpa [blank] using inductionHypothesis tail
    · have notDelete : character ≠ '\x7f' := by
        rintro rfl
        exact noDelete (by simp [LeadsWithDelete])
      simp [blank, notDelete]

theorem exists_stripped_eq_delete (path : List Char) (delete : LeadsWithDelete path) :
    ∃ rest, stripped path = '\x7f' :: rest := by
  induction path with
  | nil => simp [LeadsWithDelete] at delete
  | cons character rest inductionHypothesis =>
    by_cases blank : character ≤ ' '
    · have tail : LeadsWithDelete rest := by
        have notDelete : '\x7f' ≠ character := by
          rintro rfl
          exact absurd blank (by decide)
        simpa [LeadsWithDelete, blank, notDelete] using delete
      obtain ⟨others, equal⟩ := inductionHypothesis tail
      exact ⟨others, by simpa [stripped, blank] using equal⟩
    · have isDelete : character = '\x7f' := by
        by_contra notDelete
        simp [LeadsWithDelete, blank, notDelete] at delete
      subst isDelete
      exact ⟨rest.filter _, by simp [stripped, blank]; rfl⟩

/-- The path is taken for the same by a parser as it is when it is classified. -/
def ReadAlike (path : List Char) : Prop :=
  ¬ MixesSlashes (Prefix.bare path) ∧
    (LeadsWithDelete path →
      ¬ NamesElsewhere (Prefix.bare path) ∧ ¬ StartsAtRoot (Prefix.bare path))

theorem kindOfText_delete (rest : List Char) : kindOfText ('\x7f' :: rest) = .relative := rfl

theorem kindOfText_of_mixesSlashes (text : List Char) (mixed : MixesSlashes text) :
    kindOfText text = .foreign := by
  rw [kindOfText_eq_foreign_iff]
  right
  obtain inFront | inFront := mixed
  · exact ⟨'/', '\\', inFront, by decide, by decide⟩
  · exact ⟨'\\', '/', inFront, by decide, by decide⟩

theorem classify_eq_kind_read_iff (path : String) :
    Prefix.classify path.toList = (Reference.read path).kind ↔ ReadAlike path.toList := by
  rw [classify_eq, kind_read_eq_kindOfText_stripped, ReadAlike]
  by_cases delete : LeadsWithDelete path.toList
  case pos =>
    obtain ⟨rest, equal⟩ := exists_stripped_eq_delete _ delete
    rw [equal, kindOfText_delete]
    by_cases mixed : MixesSlashes (Prefix.bare path.toList)
    · simp [mixed]
    · simp [mixed, delete, kindOfText_eq_relative_iff]
  case neg =>
    rw [← bare_eq_stripped _ delete]
    by_cases mixed : MixesSlashes (Prefix.bare path.toList)
    · simp [mixed, kindOfText_of_mixesSlashes]
    · simp [mixed, delete]

/-- What is not refused at sight is relative to a parser too. -/
theorem kind_read_of_classify_relative (path : String)
    (relative : Prefix.classify path.toList = .relative) :
    (Reference.read path).kind = .relative := by
  rw [kind_read_eq_kindOfText_stripped]
  by_cases delete : LeadsWithDelete path.toList
  case pos =>
    obtain ⟨rest, equal⟩ := exists_stripped_eq_delete _ delete
    rw [equal, kindOfText_delete]
  case neg =>
    rw [classify_eq, bare_eq_stripped _ delete] at relative
    split at relative
    · cases relative
    · exact relative

namespace Prefix

/-- A path is refused by what a parser takes it for, and otherwise by the text of the URL alone. -/
structure FollowsReading (confines : Prefix) (path : String) : Prop where
  foreign : confines.resolve path = .error (.foreignOrigin path) ↔
    (Reference.read path).kind = .foreign
  rooted : confines.resolve path = .error (.absolutePath path) ↔
    (Reference.read path).kind = .rooted
  relative : (Reference.read path).kind = .relative →
    ∃ joined, confines.url.join path = .ok joined ∧
      confines.resolve path =
        if confines.url.write.isPrefixOf joined.write then .ok joined
        else .error (.escapesPrefix path)

theorem resolve_eq_foreignOrigin_iff (confines : Prefix) (path : String) :
    confines.resolve path = .error (.foreignOrigin path) ↔ classify path.toList = .foreign := by
  rw [resolve]
  split
  · simp_all
  · simp_all
  · split
    · simp_all
    · split <;> simp_all

theorem resolve_eq_absolutePath_iff (confines : Prefix) (path : String) :
    confines.resolve path = .error (.absolutePath path) ↔ classify path.toList = .rooted := by
  rw [resolve]
  split
  · simp_all
  · simp_all
  · split
    · simp_all
    · split <;> simp_all

/-- A relative path is judged by the text of the URL alone. -/
theorem resolve_of_relative {confines : Prefix} (path : String) (joined : Url)
    (relative : classify path.toList = .relative) (isJoined : confines.url.join path = .ok joined) :
    confines.resolve path =
      if confines.url.write.isPrefixOf joined.write then .ok joined
      else .error (.escapesPrefix path) := by
  simp only [resolve, relative, isJoined]

theorem followsReading_iff_classify {confines : Prefix} (directory : confines.IsDirectory)
    (path : String) :
    confines.FollowsReading path ↔ classify path.toList = (Reference.read path).kind := by
  constructor
  · intro follows
    have foreign := (resolve_eq_foreignOrigin_iff confines path).symm.trans follows.foreign
    have rooted := (resolve_eq_absolutePath_iff confines path).symm.trans follows.rooted
    cases classified : classify path.toList <;> cases read : (Reference.read path).kind <;> simp_all
  · intro same
    refine ⟨?_, ?_, fun relative => ?_⟩
    · rw [resolve_eq_foreignOrigin_iff, same]
    · rw [resolve_eq_absolutePath_iff, same]
    · obtain ⟨joined, isJoined, -⟩ :=
        Url.exists_join_of_relative directory.read directory.hasRoot path relative
      exact ⟨joined, isJoined, resolve_of_relative path joined (same.trans relative) isJoined⟩

/-- A parser takes a reference for foreign when it names a scheme or an authority, and for rooted
when it starts with a slash otherwise.  A path is refused accordingly, and judged by the text of the
URL otherwise, unless it starts with two different slashes or has a delete character before a
scheme or a slash. -/
theorem followsReading_iff (field raw : String) (confines : Prefix)
    (parsed : parse field raw = .ok confines) (path : String) :
    ((Reference.read path).kind = .foreign ↔ NamesElsewhere (stripped path.toList)) ∧
      ((Reference.read path).kind = .rooted ↔
        ¬ NamesElsewhere (stripped path.toList) ∧ StartsAtRoot (stripped path.toList)) ∧
      (confines.FollowsReading path ↔ ReadAlike path.toList) := by
  refine ⟨?_, ?_, ?_⟩
  · rw [kind_read_eq_kindOfText_stripped, kindOfText_eq_foreign_iff]
  · rw [kind_read_eq_kindOfText_stripped, kindOfText_eq_rooted_iff]
  · rw [followsReading_iff_classify (isDirectory_of_parse field raw confines parsed),
      classify_eq_kind_read_iff]

/-- Tabs and line breaks between two slashes hide no authority. -/
theorem followsReading_hidden_slashes :
    ∃ confines, parse "prefix" "https://[::1]/api/v2" = .ok confines ∧
      confines.FollowsReading "\t/\n/evil.example/x" :=
  ⟨_, rfl, (followsReading_iff "prefix" "https://[::1]/api/v2" _ rfl _).2.2.mpr
    ⟨by decide, fun delete => absurd delete (by decide)⟩⟩

/-- Two different slashes name an authority to a parser only, and a delete character hides one from
a parser only. -/
theorem not_followsReading_mixed_slashes :
    ∃ confines, parse "prefix" "https://[::1]/api/v2" = .ok confines ∧
      (Reference.read "/\\evil.example/x").kind = .foreign ∧
      confines.resolve "/\\evil.example/x" = .error (.absolutePath "/\\evil.example/x") ∧
      (Reference.read "\x7f//evil.example/x").kind = .relative ∧
      confines.resolve "\x7f//evil.example/x" = .error (.foreignOrigin "\x7f//evil.example/x") :=
  ⟨_, rfl, rfl, rfl, rfl, rfl⟩

end Prefix

end ConfinedHttp
