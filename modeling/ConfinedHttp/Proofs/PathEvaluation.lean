import ConfinedHttp.Proofs.Containment
import ConfinedHttp.Proofs.Url.DotSegments

namespace ConfinedHttp

/-- The characters of a plain segment. -/
def isPlain (character : Char) : Bool :=
  character.isAlphanum || "-_~.%".toList.contains character

/-- A plain character is visible, stands for itself in a path, and is no mark of any kind. -/
theorem isPlain_spec (character : Char) (plain : isPlain character = true) :
    character.toNat < 128 ∧ Percent.inPath (UInt8.ofNat character.toNat) = false ∧
      ¬ character ≤ ' ' ∧ character ≠ '\x7f' ∧ character ≠ '/' ∧ character ≠ '\\' ∧
      character ≠ ':' ∧ character ≠ '|' ∧ character ≠ '?' ∧ character ≠ '#' := by
  have ascii : character.toNat < 128 := by
    simp only [isPlain, Char.isAlphanum, Bool.or_eq_true] at plain
    rcases plain with (letter | digit) | other
    · exact Ascii.toNat_lt_of_isAlpha character letter
    · simp only [Char.isDigit, Bool.and_eq_true, decide_eq_true_eq] at digit
      exact lt_of_le_of_lt (UInt32.le_iff_toNat_le.mp digit.2) (by decide)
    · have each : ∀ mark ∈ "-_~.%".toList, mark.toNat < 128 := forall_mem_of_all _ (by decide)
      exact each character (by simpa using other)
  revert plain
  refine Ascii.forall_of_forall_code ?_ character ascii
  decide +kernel

/-- A reference of plain segments, of which the first is empty only if it is alone, with any text
behind the mark of a query or a fragment. -/
structure PlainReference where
  segments : List (List Char)
  tail : List Char
  plain : ∀ segment ∈ segments, ∀ character ∈ segment, isPlain character = true
  opened : segments = [[]] ∨ ∃ first rest, segments = first :: rest ∧ first ≠ []
  marked : ∀ mark ∈ tail.head?, Url.endsPath mark = true

namespace PlainReference

/-- Slashes stand between the segments. -/
def path (reference : PlainReference) : List Char := ['/'].intercalate reference.segments

def text (reference : PlainReference) : String := String.ofList (reference.path ++ reference.tail)

variable (reference : PlainReference)

theorem isPlain_of_mem_path (character : Char) (inside : character ∈ reference.path) :
    character = '/' ∨ isPlain character = true := by
  obtain isMark | ⟨segment, within, part⟩ :=
    mem_intercalate ['/'] reference.segments character inside
  · exact .inl (List.mem_singleton.mp isMark)
  · exact .inr (reference.plain segment within character part)

theorem visible_of_mem_path (character : Char) (inside : character ∈ reference.path) :
    ¬ character ≤ ' ' := by
  obtain rfl | plain := reference.isPlain_of_mem_path character inside
  · decide
  · exact (isPlain_spec character plain).2.2.1

/-- A lone empty segment has no text. -/
theorem path_of_lone (lone : reference.segments = [[]]) : reference.path = [] := by
  rw [path, lone, List.intercalate_singleton]

/-- Otherwise a plain character stands at the start. -/
theorem exists_path_eq_cons (first : List Char) (rest : List (List Char))
    (segments : reference.segments = first :: rest) (some : first ≠ []) :
    ∃ character others, reference.path = character :: others ∧ isPlain character = true := by
  obtain ⟨character, others, rfl⟩ := List.exists_cons_of_ne_nil some
  have isFirst : isPlain character = true :=
    reference.plain (character :: others) (by simp [segments]) character (by simp)
  cases rest with
  | nil => exact ⟨character, others, by rw [path, segments, List.intercalate_singleton], isFirst⟩
  | cons next more =>
    refine ⟨character, others ++ '/' :: ['/'].intercalate (next :: more), ?_, isFirst⟩
    simp [path, segments, List.intercalate_cons_cons]

/-- The characters that can stand at the start of a reference. -/
theorem head?_append (tail : List Char) (marked : ∀ mark ∈ tail.head?, Url.endsPath mark = true) :
    ∀ character ∈ (reference.path ++ tail).head?,
      isPlain character = true ∨ Url.endsPath character = true := by
  intro character isHead
  obtain lone | ⟨first, rest, segments, some⟩ := reference.opened
  · rw [reference.path_of_lone lone, List.nil_append] at isHead
    exact .inr (marked character isHead)
  · obtain ⟨opening, others, equal, isFirst⟩ :=
      reference.exists_path_eq_cons first rest segments some
    rw [equal] at isHead
    cases isHead
    exact .inl isFirst

/-- Nothing at the start of a reference is left out, names a scheme or is a slash. -/
theorem opening_spec (character : Char)
    (opens : isPlain character = true ∨ Url.endsPath character = true) :
    ¬ character ≤ ' ' ∧ character ≠ '\x7f' ∧ character ≠ '/' ∧ character ≠ '\\' := by
  obtain plain | mark := opens
  · obtain ⟨-, -, visible, notDelete, notSlash, notBackslash, -⟩ := isPlain_spec character plain
    exact ⟨visible, notDelete, notSlash, notBackslash⟩
  · rcases (Url.endsPath_iff character).mp mark with rfl | rfl <;> decide

/-- Whatever is removed from the start of a reference and from inside it stands in its tail. -/
theorem stripped_text_toList :
    ∃ tail, stripped reference.text.toList = reference.path ++ tail ∧
      tail.head? = reference.tail.head? := by
  have kept : reference.path.filter (fun character =>
      !(character == '\t' || character == '\n' || character == '\r')) = reference.path := by
    refine List.filter_eq_self.mpr fun character inside => ?_
    have visible := reference.visible_of_mem_path character inside
    have notBlank : character ≠ '\t' ∧ character ≠ '\n' ∧ character ≠ '\r' := by
      refine ⟨?_, ?_, ?_⟩ <;> rintro rfl <;> exact visible (by decide)
    simp [notBlank]
  have opening := reference.head?_append reference.tail reference.marked
  have whole : (reference.path ++ reference.tail).dropWhile (· ≤ ' ') =
      reference.path ++ reference.tail := by
    cases equal : reference.path ++ reference.tail with
    | nil => rfl
    | cons first rest =>
      have visible := (opening_spec first (opening first (by simp [equal]))).1
      simp [visible]
  refine ⟨_, by rw [text, String.toList_ofList, stripped, whole, List.filter_append, kept], ?_⟩
  cases equal : reference.tail with
  | nil => rfl
  | cons mark rest =>
    have isMark := (Url.endsPath_iff mark).mp (reference.marked mark (by simp [equal]))
    rcases isMark with rfl | rfl <;> rfl

/-- A parser leaves the path of a reference as it is, too. -/
theorem exists_clean_eq :
    ∃ tail, Url.clean reference.text.toList = reference.path ++ tail ∧
      ∀ mark ∈ tail.head?, Url.endsPath mark = true := by
  obtain ⟨kept, isStripped, sameHead⟩ := reference.stripped_text_toList
  obtain ⟨blanks, isClean, blank⟩ := exists_stripped_eq reference.text.toList
  have equal := isStripped.symm.trans isClean
  -- what is removed from the end is blank, and no character of the path is
  have within : reference.path <+: Url.clean reference.text.toList := by
    obtain inClean | ⟨more, some, isPath, inBlanks⟩ := isPrefix_append_cases ⟨kept, equal⟩
    · exact inClean
    · obtain ⟨last, isLast⟩ := List.exists_mem_of_ne_nil more some
      have inPath : last ∈ reference.path := by simp [isPath, isLast]
      exact absurd (blank last (inBlanks.subset isLast)) (reference.visible_of_mem_path last inPath)
  obtain ⟨tail, isTail⟩ := within
  refine ⟨tail, isTail.symm, fun mark isHead => reference.marked mark ?_⟩
  rw [← isTail, List.append_assoc, List.append_cancel_left_eq] at equal
  rw [← sameHead, equal]
  cases tail with
  | nil => cases isHead
  | cons first rest => exact isHead

/-- No colon stands before the mark of a query or a fragment. -/
theorem not_namesScheme (tail : List Char)
    (marked : ∀ mark ∈ tail.head?, Url.endsPath mark = true) :
    ¬ NamesScheme (reference.path ++ tail) := by
  rintro ⟨first, word, within, letter, isWord⟩
  obtain inPath | ⟨more, some, isMore, inTail⟩ := isPrefix_append_cases within
  · have colon := reference.isPlain_of_mem_path ':' (inPath.subset (by simp))
    revert colon
    decide
  · obtain ⟨mark, others, rfl⟩ := List.exists_cons_of_ne_nil some
    obtain ⟨rest, rfl⟩ := inTail
    have isMark := (Url.endsPath_iff mark).mp (marked mark (by simp))
    have inScheme : mark ∈ first :: word ++ [':'] := by simp [isMore]
    simp only [List.cons_append, List.mem_cons, List.mem_append, List.not_mem_nil, or_false]
      at inScheme
    rcases inScheme with rfl | inWord | rfl
    · rcases isMark with rfl | rfl <;> cases letter
    · have schemeCharacter := isWord mark inWord
      rcases isMark with rfl | rfl <;> cases schemeCharacter
    · revert isMark
      decide

/-- What a reference names is read from its path when it has one, and from its tail otherwise. -/
theorem read_text :
    ∃ tail, (∀ mark ∈ tail.head?, Url.endsPath mark = true) ∧
      Reference.read reference.text =
        .relative (RelativeReference.read (reference.path ++ tail)) := by
  obtain ⟨tail, isClean, marked⟩ := reference.exists_clean_eq
  refine ⟨tail, marked, ?_⟩
  have noScheme : readScheme? (reference.path ++ tail) = none := by
    have notNamed := (isSome_readScheme_iff _).not.mpr (reference.not_namesScheme tail marked)
    simpa using notNamed
  simp only [Reference.read, isClean, noScheme]

/-- A reference without slashes at its start names no other place and not the root. -/
theorem kind_read_text : (Reference.read reference.text).kind = .relative := by
  obtain ⟨tail, marked, isRead⟩ := reference.read_text
  have opening := reference.head?_append tail marked
  rw [isRead]
  generalize reference.path ++ tail = text at opening
  fun_cases RelativeReference.read text with
  | case1 => rfl
  | case2 => rfl
  | case3 => rfl
  | case4 first _ _ _ isSlash _ =>
    obtain ⟨-, -, notSlash, notBackslash⟩ := opening_spec first (opening first rfl)
    simp [isReferenceSlash, notSlash, notBackslash] at isSlash
  | case5 first _ _ _ isSlash _ =>
    obtain ⟨-, -, notSlash, notBackslash⟩ := opening_spec first (opening first rfl)
    simp [isReferenceSlash, notSlash, notBackslash] at isSlash
  | case6 => rfl

theorem readAlike_text : ReadAlike reference.text.toList := by
  have noDelete : ¬ LeadsWithDelete reference.text.toList := by
    have opening := reference.head?_append reference.tail reference.marked
    rw [text, String.toList_ofList, LeadsWithDelete]
    cases equal : reference.path ++ reference.tail with
    | nil => simp
    | cons first rest =>
      obtain ⟨visible, notDelete, -⟩ := opening_spec first (opening first (by simp [equal]))
      simp [visible, notDelete]
  refine ⟨?_, fun delete => absurd delete noDelete⟩
  obtain ⟨tail, isStripped, sameHead⟩ := reference.stripped_text_toList
  have opening := reference.head?_append tail (by rw [sameHead]; exact reference.marked)
  rw [bare_eq_stripped _ noDelete, isStripped]
  rintro (⟨rest, equal⟩ | ⟨rest, equal⟩)
  · exact (opening_spec '/' (opening '/' (by rw [← equal]; rfl))).2.2.1 rfl
  · exact (opening_spec '\\' (opening '\\' (by rw [← equal]; rfl))).2.2.2 rfl

theorem classify_text : Prefix.classify reference.text.toList = .relative :=
  ((classify_eq_kind_read_iff _).mpr reference.readAlike_text).trans reference.kind_read_text

theorem segments_ne_nil : reference.segments ≠ [] := by
  obtain lone | ⟨first, rest, segments, -⟩ := reference.opened
  · simp [lone]
  · simp [segments]

theorem splitAt_path (kind : SchemeKind) :
    splitAt kind.isSlash reference.path = reference.segments := by
  refine splitAt_intercalate kind.isSlash '/' reference.segments rfl reference.segments_ne_nil ?_
  intro segment inside character part
  obtain ⟨-, -, -, noMark⟩ := isPlain_spec character (reference.plain segment inside character part)
  simp [SchemeKind.isSlash, noMark]

/-- A plain segment is put on a path as it is, and it is no drive letter. -/
theorem escape_segment (kind : SchemeKind) (segment : List Char)
    (inside : segment ∈ reference.segments) :
    Segments.escape kind segment = String.ofList segment ∧ Segments.isDrive segment = false := by
  have plain := reference.plain segment inside
  have notDrive : Segments.isDrive segment = false := by
    rw [Segments.isDrive.eq_def]
    split
    case h_1 letter mark =>
      obtain ⟨-, -, -, noMark⟩ := isPlain_spec mark (plain mark (by simp))
      simp [noMark]
    case h_2 => rfl
  have kept : Percent.encodeText Percent.inPath segment = String.ofList segment := by
    rw [Percent.encodeText, Percent.encode_of_isEscaped]
    intro character part
    obtain ⟨ascii, isKept, -⟩ := isPlain_spec character (plain character part)
    exact ⟨ascii, isKept⟩
  refine ⟨?_, notDrive⟩
  fun_cases Segments.escape kind segment with
  | case1 letter mark drive => simp [drive] at notDrive
  | case2 => exact kept
  | case3 => exact kept

/-- A path ends at the mark of a query or a fragment. -/
theorem takeWhile_path_append (tail : List Char)
    (marked : ∀ mark ∈ tail.head?, Url.endsPath mark = true) :
    (reference.path ++ tail).takeWhile (!Url.endsPath ·) = reference.path := by
  have inPath : ∀ character ∈ reference.path, (!Url.endsPath character) = true := by
    intro character inside
    obtain rfl | plain := reference.isPlain_of_mem_path character inside
    · rfl
    · obtain ⟨-, -, -, noMark⟩ := isPlain_spec character plain
      simp [Url.endsPath, noMark]
  have behind : tail.takeWhile (!Url.endsPath ·) = [] := by
    cases tail with
    | nil => rfl
    | cons mark rest => simp [marked mark rfl]
  rw [List.takeWhile_append_of_pos inPath, behind, List.append_nil]

end PlainReference

namespace Prefix

/-- The segments of a directory, without the empty one behind its last slash. -/
def segments (confines : Prefix) : List (List Char) :=
  confines.url.path.segments.dropLast.map String.toList

theorem IsDirectory.path_eq {confines : Prefix} (directory : confines.IsDirectory) :
    confines.url.path = .rooted (confines.segments.map String.ofList ++ [""]) := by
  obtain ⟨front, isRooted⟩ := directory.path
  simp [segments, isRooted, Path.segments]

theorem IsDirectory.not_namesByDots {confines : Prefix} (directory : confines.IsDirectory) :
    ∀ segment ∈ confines.segments, ¬ Segments.NamesByDots segment := by
  intro segment inside
  obtain ⟨text, within, rfl⟩ := List.mem_map.mp inside
  have settled := directory.read.settled text (List.mem_of_mem_dropLast within)
  rintro (place | above)
  · exact absurd ((Segments.isDot_iff _).mpr place) (by simp [settled.notDot])
  · exact absurd ((Segments.isDoubleDot_iff _).mpr above) (by simp [settled.notDoubleDot])

/-- A reference without a path keeps the path of the base. -/
theorem path_of_joinRelative_tail {base joined : Url} (tail : List Char)
    (marked : ∀ mark ∈ tail.head?, Url.endsPath mark = true)
    (isJoined : base.joinRelative (RelativeReference.read tail) = .ok joined) :
    joined.path = base.path := by
  cases tail with
  | nil =>
    cases isJoined
    rfl
  | cons mark rest =>
    have isMark := (Url.endsPath_iff mark).mp (marked mark rfl)
    rcases isMark with rfl | rfl <;> cases isJoined <;> rfl

/-- A reference with a path replaces what stands behind the last slash of the base. -/
theorem path_of_joinRelative_segments {base joined : Url} (notFile : base.scheme ≠ "file")
    (reference : PlainReference) (first : List Char) (rest : List (List Char))
    (segments : reference.segments = first :: rest) (some : first ≠ []) (tail : List Char)
    (marked : ∀ mark ∈ tail.head?, Url.endsPath mark = true)
    (isJoined : base.joinRelative (RelativeReference.read (reference.path ++ tail)) = .ok joined) :
    joined.path = .rooted (Segments.walk (SchemeKind.of base.scheme) base.path.segments.dropLast
      reference.segments) := by
  have isPath :
      RelativeReference.read (reference.path ++ tail) = .path (reference.path ++ tail) := by
    obtain ⟨character, others, equal, plain⟩ :=
      reference.exists_path_eq_cons first rest segments some
    obtain ⟨-, -, -, noMark⟩ := isPlain_spec character plain
    simp [equal, RelativeReference.read, isReferenceSlash, noMark]
  have notFileKind : SchemeKind.of base.scheme ≠ .file := (SchemeKind.of_eq_file _).not.mpr notFile
  rw [isPath, Url.joinRelative] at isJoined
  rw [← Except.ok.inj isJoined]
  simp [Url.joinPath, notFile, Url.parentSegments, reference.takeWhile_path_append tail marked,
    Segments.read, notFileKind, reference.splitAt_path]

/-- Resolving evaluates the segments of a reference behind those of the directory. -/
theorem exists_join_text {confines : Prefix} (directory : confines.IsDirectory)
    (notFile : confines.url.scheme ≠ "file")
    (noDrive : ∀ segment ∈ confines.segments, Segments.isDrive segment = false)
    (reference : PlainReference) :
    ∃ joined, confines.url.join reference.text = .ok joined ∧ confines.url.KeepsPlace joined ∧
      joined.path = .rooted
        ((Segments.evaluate (confines.segments ++ reference.segments)).map String.ofList) := by
  obtain ⟨joined, isJoined, kept⟩ := Url.exists_join_of_relative directory.read directory.hasRoot
    reference.text reference.kind_read_text
  refine ⟨joined, isJoined, kept, ?_⟩
  obtain ⟨tail, marked, isRead⟩ := reference.read_text
  rw [Url.join_of_read_relative directory.hasRoot reference.text _ isRead] at isJoined
  rw [Segments.evaluate_append _ _ reference.segments_ne_nil directory.not_namesByDots]
  obtain lone | ⟨first, rest, segments, some⟩ := reference.opened
  · rw [reference.path_of_lone lone, List.nil_append] at isJoined
    rw [path_of_joinRelative_tail tail marked isJoined, directory.path_eq, lone]
    simp [Segments.evaluateFrom_lone]
  · have onStack :
        confines.url.path.segments.dropLast = Segments.held confines.segments.reverse := by
      simp [directory.path_eq, Path.segments, Segments.held]
    have walked := path_of_joinRelative_segments notFile reference first rest segments some tail
      marked isJoined
    rw [walked, onStack, Segments.walk_held_eq_evaluateFrom _ _ (reference.escape_segment _)]
    simpa using noDrive

/-- The segments that are reached start with those of the directory, and at least one follows. -/
def Reaches (confines : Prefix) (reached : List (List Char)) : Prop :=
  ∃ further, further ≠ [] ∧ reached = confines.segments ++ further

/-- A path is below that of the directory exactly when its segments are. -/
theorem write_isPrefix_iff_reaches {confines : Prefix} (directory : confines.IsDirectory)
    {joined : Url} (read : joined.IsRead) (reached : List (List Char))
    (isPath : joined.path = .rooted (reached.map String.ofList)) :
    confines.url.path.write <+: joined.path.write ↔ confines.Reaches reached := by
  have settled := directory.read.settled
  have joinedSettled := read.settled
  rw [directory.path_eq] at settled ⊢
  rw [isPath] at joinedSettled ⊢
  rw [Path.write_directory_isPrefix_iff _ (reached.map String.ofList)
    (fun segment inside => (settled segment (List.mem_append_left _ inside)).not_mem_slash)
    (fun segment inside => (joinedSettled segment inside).not_mem_slash)]
  constructor
  · rintro ⟨further, some, equal⟩
    have texts := congrArg (List.map String.toList) equal
    exact ⟨further.map String.toList, by simpa using some, by simpa [Function.comp_def] using texts⟩
  · rintro ⟨further, some, rfl⟩
    exact ⟨further.map String.ofList, by simpa using some, List.map_append⟩

/-- Below a prefix of the web, a reference of plain segments is resolved exactly when the segments
that it reaches start with those of the prefix and at least one follows.  They are the path of the
URL then.  The query and the fragment make no difference. -/
theorem resolve_plain (field raw : String) (confines : Prefix)
    (parsed : parse field raw = .ok confines)
    (web : confines.url.scheme = "http" ∨ confines.url.scheme = "https")
    (noDrive : ∀ segment ∈ confines.segments, Segments.isDrive segment = false)
    (reference : PlainReference) :
    let reached := Segments.evaluate (confines.segments ++ reference.segments)
    confines.url.path.write = '/' :: confines.segments.flatMap (· ++ ['/']) ∧
      (confines.Reaches reached →
        ∃ url, confines.resolve reference.text = .ok url ∧
          url.path.write = '/' :: ['/'].intercalate reached) ∧
      (¬ confines.Reaches reached →
        confines.resolve reference.text = .error (.escapesPrefix reference.text)) := by
  intro reached
  have directory := isDirectory_of_parse field raw confines parsed
  have notFile : confines.url.scheme ≠ "file" := by
    rcases web with isHttp | isHttps <;> simp [*]
  have hasAuthority : confines.url.authority.isSome := by
    rcases web with isHttp | isHttps
    · exact directory.read.web 80 (by rw [isHttp]; rfl)
    · exact directory.read.web 443 (by rw [isHttps]; rfl)
  obtain ⟨joined, isJoined, kept, isPath⟩ := exists_join_text directory notFile noDrive reference
  have judged := resolve_of_relative reference.text joined reference.classify_text isJoined
  have authority : joined.authority = confines.url.authority :=
    kept.authority.resolve_right fun file => notFile file.1
  -- the test compares whole texts, but scheme and authority agree, and no mark is in the prefix
  have within : confines.url.write.isPrefixOf joined.write = true ↔ confines.Reaches reached := by
    rw [List.isPrefixOf_iff_prefix, ← write_isPrefix_iff_reaches directory kept.read reached isPath]
    constructor
    · exact fun below => (confines_of_isPrefix_write directory kept below).path
    · exact fun below =>
        isPrefix_write_of_confines directory hasAuthority ⟨kept.scheme, authority, below⟩
  refine ⟨?_, fun reaches => ⟨joined, ?_, ?_⟩, fun escapes => ?_⟩
  · rw [directory.path_eq, Path.write_directory, List.flatMap_map]
    simp
  · rw [judged, if_pos (within.mpr reaches)]
  · obtain ⟨further, some, equal⟩ := reaches
    have someReached : reached.map String.ofList ≠ [] := by simp [equal, some]
    rw [isPath, Path.write_rooted_eq_intercalate _ someReached]
    simp [reached, Function.comp_def]
  · rw [judged, if_neg (within.not.mpr escapes)]

/-- A path may leave the prefix and come back to it. -/
theorem resolve_plain_returning :
    ∃ confines, parse "prefix" "https://[::1]/api/v2" = .ok confines ∧
      ∃ reference : PlainReference, reference.text = "%2E./v2/users/..?page=../.." ∧
        ∃ url, confines.resolve reference.text = .ok url ∧ url.path.write = "/api/v2/".toList := by
  let reference : PlainReference :=
    { segments := ["%2E.".toList, "v2".toList, "users".toList, "..".toList]
      tail := "?page=../..".toList
      plain := by
        simp [isPlain, Char.isAlphanum, Char.isAlpha, Char.isUpper, Char.isLower, Char.isDigit]
      opened := .inr ⟨_, _, rfl, by decide⟩
      marked := by simp [Url.endsPath] }
  refine ⟨_, rfl, reference, rfl, ?_⟩
  have evaluated := resolve_plain "prefix" "https://[::1]/api/v2" _ rfl (.inr rfl) (by decide)
    reference
  exact evaluated.2.1 ⟨[[]], by decide, rfl⟩

end Prefix

end ConfinedHttp
