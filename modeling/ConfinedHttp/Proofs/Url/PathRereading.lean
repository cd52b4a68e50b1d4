import ConfinedHttp.Proofs.Url.AuthorityRereading
import ConfinedHttp.Proofs.Url.WrittenPath

namespace ConfinedHttp

/-- A text in which nothing is left to escape is visible where spaces are escaped. -/
theorem Percent.isVisible_of_isEscaped {escaped : UInt8 → Bool} (set : IsEscapeSet escaped)
    (space : escaped 0x20 = true) (text : List Char) (done : IsEscaped escaped text) :
    IsVisible text := by
  intro character inside
  obtain ⟨ascii, kept⟩ := done character inside
  have noControl : isControl (UInt8.ofNat character.toNat) = false := by
    by_contra control
    rw [set.control _ ((Bool.not_eq_false _).mp control)] at kept
    cases kept
  have noSpace : character ≠ ' ' := by
    rintro rfl
    exact absurd (kept.symm.trans space) (by decide)
  revert noControl noSpace
  refine Ascii.forall_of_forall_code ?_ character ascii
  decide +kernel

namespace Segments

/-- A segment with nothing but a drive letter was written without escapes. -/
theorem eq_of_isDrive_encodeText (piece : List Char)
    (drive : isDrive (Percent.encodeText Percent.inPath piece).toList = true) :
    (Percent.encodeText Percent.inPath piece).toList = piece := by
  rw [Percent.encodeText, String.toList_ofList] at drive ⊢
  apply Percent.encode_of_isEscaped
  apply Percent.isEscaped_of_not_isInfix Percent.isEscapeSet_inPath
  intro byte _ part
  have sign : '%' ∈ Percent.encode Percent.inPath (Utf8.encode piece) :=
    part.subset (List.mem_cons_self ..)
  rw [isDrive.eq_def] at drive
  split at drive
  case h_1 letter mark equal =>
    rw [equal] at sign
    simp only [Bool.and_eq_true, Bool.or_eq_true, beq_iff_eq] at drive
    obtain rfl | rfl : '%' = letter ∨ '%' = mark := by simpa using sign
    · exact absurd drive.1 (by decide)
    · exact absurd drive.2 (by decide)
  case h_2 => cases drive

/-- A written segment is written once more as it is. -/
theorem escape_escape (kind : SchemeKind) (piece : List Char) :
    escape kind (escape kind piece).toList = escape kind piece := by
  have plain (notDrive : kind = .file → isDrive (Percent.encodeText Percent.inPath piece).toList =
      false) :
      escape kind (Percent.encodeText Percent.inPath piece).toList =
        Percent.encodeText Percent.inPath piece := by
    have again : Percent.encodeText Percent.inPath
        (Percent.encodeText Percent.inPath piece).toList =
        Percent.encodeText Percent.inPath piece := by
      rw [Percent.encodeText, Percent.encodeText, String.toList_ofList,
        Percent.encode_of_isEscaped _ (Percent.isEscaped_encode Percent.isEscapeSet_inPath _)]
    rw [escape.eq_def]
    split
    case h_1 letter mark equal =>
      have notDrive : isDrive [letter, mark] = false := equal ▸ notDrive rfl
      rw [if_neg (by simp [notDrive]), again]
    case h_2 => exact again
  have keeps (other : isDrive piece = false) :
      isDrive (Percent.encodeText Percent.inPath piece).toList = false := by
    by_contra drive
    have drive := (Bool.not_eq_false _).mp drive
    rw [eq_of_isDrive_encodeText piece drive, other] at drive
    cases drive
  fun_cases escape kind piece with
  | case1 letter mark drive =>
    have normal : isDrive [letter, ':'] = true := by
      simp_all [isDrive]
    rw [String.toList_ofList, escape, if_pos normal]
  | case2 letter mark notDrive => exact plain fun _ => keeps (by simpa using notDrive)
  | case3 =>
    rename_i notPair
    refine plain fun isFile => keeps ?_
    rw [isDrive.eq_def]
    split
    case h_1 letter mark => exact (notPair letter mark isFile rfl).elim
    case h_2 => rfl

/-- Segments that are settled and written are put on the stack as they are. -/
theorem walk_of_isSettled (kind : SchemeKind) (segments : List String)
    (settled : ∀ segment ∈ segments, IsSettled kind segment ∧
      escape kind segment.toList = segment) (stack : List String) :
    walk kind stack (segments.map String.toList) = stack ++ segments := by
  induction segments generalizing stack with
  | nil => simp [walk]
  | cons segment rest inductionHypothesis =>
    obtain ⟨⟨here, written⟩, later⟩ := List.forall_mem_cons.mp settled
    rw [List.map_cons, walk, if_neg (by simp [here.notDoubleDot]), if_neg (by simp [here.notDot]),
      inductionHypothesis later, written, List.append_assoc, List.singleton_append]

/-- The last piece leaves a segment, even when it is a dot segment. -/
theorem walk_ne_nil (kind : SchemeKind) (pieces : List (List Char)) (some : pieces ≠ [])
    (stack : List String) : walk kind stack pieces ≠ [] := by
  induction pieces generalizing stack with
  | nil => exact absurd rfl some
  | cons piece rest inductionHypothesis =>
    rw [walk]
    cases rest with
    | nil =>
      simp only [List.isEmpty_nil, if_true]
      split_ifs <;> simp [walk]
    | cons next others => split_ifs <;> exact inductionHypothesis (by simp) _

theorem withoutLeadingEmpty_cons (first : String) (rest : List String) (filled : first ≠ "") :
    withoutLeadingEmpty (first :: rest) = first :: rest := by
  simp [withoutLeadingEmpty, filled]

/-- Without leading empty segments a path is empty or starts with a segment that is not. -/
theorem withoutLeadingEmpty_cases (segments : List String) :
    withoutLeadingEmpty segments = [""] ∨
      ∃ first rest, first ≠ "" ∧ withoutLeadingEmpty segments = first :: rest := by
  rw [withoutLeadingEmpty]
  split
  case h_1 => exact .inl rfl
  case h_2 rest equal =>
    obtain ⟨first, others, isRest⟩ := List.exists_cons_of_ne_nil equal
    have head := List.head?_dropWhile_not String.isEmpty segments
    rw [isRest] at head
    exact .inr ⟨first, others, by simpa using head, isRest⟩

theorem withoutLeadingEmpty_twice (segments : List String) :
    withoutLeadingEmpty (withoutLeadingEmpty segments) = withoutLeadingEmpty segments := by
  obtain empty | ⟨first, rest, filled, equal⟩ := withoutLeadingEmpty_cases segments
  · rw [empty]
    rfl
  · rw [equal, withoutLeadingEmpty_cons first rest filled]

theorem escape_empty (kind : SchemeKind) : escape kind "".toList = "" := by
  rw [escape.eq_def]
  split <;> simp_all [Percent.encodeText]

/-- Segments that are the same when their path is read again. -/
structure IsFixed (kind : SchemeKind) (segments : List String) : Prop where
  notEmpty : segments ≠ []
  settled : ∀ segment ∈ segments, IsSettled kind segment
  written : ∀ segment ∈ segments, escape kind segment.toList = segment
  filed : kind = .file → withoutLeadingEmpty segments = segments

/-- Reading a path from the root gives segments that stay the same. -/
theorem isFixed_read (kind : SchemeKind) (text : List Char) : IsFixed kind (read kind [] text) where
  notEmpty := by
    rw [read]
    split
    · rw [withoutLeadingEmpty]
      split <;> simp_all
    · exact walk_ne_nil kind _ (splitAt_ne_nil _ _) []
  settled := isSettled_of_mem_read kind [] text (by simp)
  written := by
    have walked := forall_mem_walk kind (fun segment => escape kind segment.toList = segment)
      (escape_empty kind) (splitAt kind.isSlash text) (fun piece _ _ _ => escape_escape kind piece)
      [] (by simp)
    intro segment inside
    rw [read] at inside
    split at inside
    · obtain within | isEmpty := mem_withoutLeadingEmpty _ segment inside
      · exact walked segment within
      · exact isEmpty ▸ escape_empty kind
    · exact walked segment inside
  filed isFile := by rw [read, if_pos isFile, withoutLeadingEmpty_twice]

section Fixed

variable {kind : SchemeKind} {segments : List String} (fixed : IsFixed kind segments)

include fixed

/-- Reading what the segments write gives them again. -/
theorem IsFixed.read_intercalate :
    read kind [] (['/'].intercalate (segments.map String.toList)) = segments := by
  have cut : splitAt kind.isSlash (['/'].intercalate (segments.map String.toList)) =
      segments.map String.toList := by
    refine splitAt_intercalate _ '/' _ rfl (by simpa using fixed.notEmpty) fun piece inside => ?_
    obtain ⟨segment, within, rfl⟩ := List.mem_map.mp inside
    exact (fixed.settled segment within).whole
  rw [read, cut, walk_of_isSettled kind _
    (fun segment inside => ⟨fixed.settled segment inside, fixed.written segment inside⟩),
    List.nil_append]
  split
  case isTrue isFile => exact fixed.filed isFile
  case isFalse => rfl

/-- Nothing in the segments ends a path. -/
theorem IsFixed.not_endsPath :
    ∀ character ∈ ['/'].intercalate (segments.map String.toList),
      Url.endsPath character = false := by
  intro character inside
  obtain mark | ⟨piece, within, here⟩ := mem_intercalate _ _ character inside
  · rw [List.mem_singleton.mp mark]
    rfl
  · obtain ⟨segment, isSegment, rfl⟩ := List.mem_map.mp within
    exact (fixed.settled segment isSegment).not_endsPath character here

end Fixed

/-- A dot segment in front is skipped. -/
theorem read_dot (kind : SchemeKind) (text : List Char) :
    read kind [] ('.' :: '/' :: text) = read kind [] text := by
  have cut : splitAt kind.isSlash ('.' :: '/' :: text) = ['.'] :: splitAt kind.isSlash text := by
    simp [splitAt, SchemeKind.isSlash]
  have some := splitAt_ne_nil kind.isSlash text
  have skipped : walk kind [] (['.'] :: splitAt kind.isSlash text) =
      walk kind [] (splitAt kind.isSlash text) := by
    rw [walk, if_neg (by decide), if_pos (by decide)]
    simp [some]
  rw [read, read, cut, skipped]

end Segments

namespace Url

/-- The bytes escaped in the query of a URL. -/
def queryEscapes (kind : SchemeKind) : UInt8 → Bool :=
  if kind.isSpecial then Percent.inSpecialQuery else Percent.inQuery

theorem isEscapeSet_queryEscapes (kind : SchemeKind) :
    Percent.IsEscapeSet (queryEscapes kind) ∧ queryEscapes kind 0x20 = true ∧
      queryEscapes kind 0x23 = true := by
  rw [queryEscapes]
  split
  · exact ⟨⟨fun byte control => by simp [Percent.inSpecialQuery, Percent.inQuery, control],
      by decide, by decide⟩, by decide, by decide⟩
  · exact ⟨⟨fun byte control => by simp [Percent.inQuery, control], by decide, by decide⟩,
      by decide, by decide⟩

theorem isEscapeSet_inFragment : Percent.IsEscapeSet Percent.inFragment :=
  ⟨fun byte control => by simp [Percent.inFragment, control], by decide, by decide⟩

/-- The query and the fragment of a URL are escaped. -/
structure HasEscapedTail (kind : SchemeKind) (url : Url) : Prop where
  query : ∀ text, url.query = some text → Percent.IsEscaped (queryEscapes kind) text.toList
  fragment : ∀ text, url.fragment = some text → Percent.IsEscaped Percent.inFragment text.toList

theorem hasEscapedTail_withTail (kind : SchemeKind) (url : Url) (text : List Char) :
    (withTail kind url text).HasEscapedTail kind where
  query query isQuery := by
    simp only [withTail] at isQuery
    rw [readQuery.eq_def] at isQuery
    split at isQuery
    · rw [← Option.some.inj isQuery, Percent.encodeText, String.toList_ofList]
      exact Percent.isEscaped_encode (isEscapeSet_queryEscapes kind).1 _
    · cases isQuery
  fragment fragment isFragment := by
    simp only [withTail] at isFragment
    rw [readFragment.eq_def] at isFragment
    split at isFragment
    · rw [← Option.some.inj isFragment, Percent.encodeText, String.toList_ofList]
      exact Percent.isEscaped_encode isEscapeSet_inFragment _
    · cases isFragment

theorem HasEscapedTail.isVisible {kind : SchemeKind} {url : Url} (escaped : url.HasEscapedTail kind) :
    IsVisible url.tail := by
  have query : IsVisible (writeMarked '?' url.query) := by
    cases equal : url.query with
    | none => simp [writeMarked, IsVisible]
    | some text =>
      obtain ⟨set, space, -⟩ := isEscapeSet_queryEscapes kind
      exact .cons (by decide) (Percent.isVisible_of_isEscaped set space _ (escaped.query text equal))
  have fragment : IsVisible (writeMarked '#' url.fragment) := by
    cases equal : url.fragment with
    | none => simp [writeMarked, IsVisible]
    | some text =>
      exact .cons (by decide) (Percent.isVisible_of_isEscaped isEscapeSet_inFragment (by decide) _
        (escaped.fragment text equal))
  exact query.append fragment

/-- An escaped query and an escaped fragment are read from their text. -/
theorem withTail_tail (kind : SchemeKind) (url other : Url) (escaped : url.HasEscapedTail kind) :
    withTail kind other url.tail =
      { other with query := url.query, fragment := url.fragment } := by
  have fragment : readFragment (writeMarked '#' url.fragment) = url.fragment := by
    cases equal : url.fragment with
    | none => rfl
    | some text =>
      have same := Percent.encode_of_isEscaped _ (escaped.fragment text equal)
      simp [writeMarked, readFragment, Percent.encodeText, same]
  have opens : ∀ next ∈ (writeMarked '#' url.fragment).head?, (next != '#') = false := by
    cases url.fragment <;> simp [writeMarked]
  rw [withTail, tail]
  cases equal : url.query with
  | none =>
    rw [writeMarked, List.nil_append]
    have noQuery : readQuery kind (writeMarked '#' url.fragment) = none := by
      cases url.fragment <;> rfl
    have whole := (takeWhile_dropWhile_append (· != '#') [] _ (by simp) opens).2
    rw [List.nil_append] at whole
    rw [noQuery, whole, fragment]
  | some text =>
    have done := escaped.query text equal
    have same := Percent.encode_of_isEscaped _ done
    have noSharp : ∀ character ∈ text.toList, (character != '#') = true := by
      intro character inside
      rw [bne_iff_ne]
      rintro rfl
      exact absurd ((done '#' inside).2.symm.trans (isEscapeSet_queryEscapes kind).2.2) (by decide)
    obtain ⟨taken, dropped⟩ := takeWhile_dropWhile_append (· != '#') text.toList _ noSharp opens
    have query : readQuery kind (writeMarked '?' (some text) ++ writeMarked '#' url.fragment) =
        some text := by
      change some (Percent.encodeText (queryEscapes kind)
        ((text.toList ++ writeMarked '#' url.fragment).takeWhile (· != '#'))) = some text
      rw [taken, Percent.encodeText, same, String.ofList_toList]
    have behind : (writeMarked '?' (some text) ++ writeMarked '#' url.fragment).dropWhile (· != '#') =
        writeMarked '#' url.fragment := by
      rw [writeMarked, List.cons_append, List.dropWhile_cons_of_pos (by decide), dropped]
    rw [query, behind, fragment]

/-- A rooted path in normal form, and what stands behind it, are read again from their text. -/
theorem withPath_write (kind : SchemeKind) (url : Url) (text : List Char) :
    let result := withPath kind url [] text
    ∃ rest, result.path.write ++ result.tail = '/' :: rest ∧ withPath kind url [] rest = result ∧
      (rest.head? = some '/' → ['/', '/'].isPrefixOf result.path.write = true) := by
  intro result
  have fixed := Segments.isFixed_read kind (text.takeWhile (!endsPath ·))
  have again := fixed.read_intercalate
  have written : result.path.write = '/' :: ['/'].intercalate
      ((Segments.read kind [] (text.takeWhile (!endsPath ·))).map String.toList) :=
    Path.write_rooted_eq_intercalate _ fixed.notEmpty
  have inPath : ∀ character ∈ ['/'].intercalate
      ((Segments.read kind [] (text.takeWhile (!endsPath ·))).map String.toList),
      (!endsPath character) = true := by
    intro character inside
    rw [fixed.not_endsPath character inside]
    rfl
  have ends : ∀ next ∈ result.tail.head?, (!endsPath next) = false := by
    intro next inside
    obtain ⟨rest, equal⟩ := List.head?_eq_some_iff.mp inside
    rw [endsPath_of_head_tail result rest next equal]
    rfl
  obtain ⟨taken, dropped⟩ := takeWhile_dropWhile_append (!endsPath ·) _ result.tail inPath ends
  refine ⟨_, by rw [written, List.cons_append], ?_, fun slash => ?_⟩
  · rw [withPath, taken, dropped, again,
      withTail_tail kind result _ (hasEscapedTail_withTail kind _ _)]
    rfl
  · rw [written]
    cases equal : ['/'].intercalate
        ((Segments.read kind [] (text.takeWhile (!endsPath ·))).map String.toList) with
    | nil =>
      rw [equal, List.nil_append] at slash
      exact absurd (ends '/' slash) (by decide)
    | cons first rest =>
      rw [equal] at slash
      obtain rfl : first = '/' := by simpa using slash
      rfl

/-- The path in normal form and what stands behind it are visible. -/
theorem isVisible_withPath (kind : SchemeKind) (url : Url) (text : List Char) :
    IsVisible ((withPath kind url [] text).path.write ++ (withPath kind url [] text).tail) := by
  refine .append ?_ (hasEscapedTail_withTail kind _ _).isVisible
  intro character inside
  obtain ⟨segment, within, part⟩ := List.mem_flatMap.mp inside
  have settled := Segments.isSettled_of_mem_read kind [] (text.takeWhile (!endsPath ·)) (by simp)
    segment within
  obtain rfl | here := List.mem_cons.mp part
  · decide
  · exact Percent.isVisible_of_isEscaped Percent.isEscapeSet_inPath (by decide) _ settled.escaped
      character here

/-- What was read behind an authority does not continue it, is visible, and is read again from its
text. -/
theorem withPathBehindAuthority_write (kind : SchemeKind) (scheme : String)
    (authority : Option Authority) (text : List Char) :
    let bare : Url := ⟨scheme, authority, .rooted [], none, none⟩
    let result := withPathBehindAuthority kind bare text
    EndsAuthority kind (result.path.write ++ result.tail) ∧
      IsVisible (result.path.write ++ result.tail) ∧
      withPathBehindAuthority kind bare (result.path.write ++ result.tail) = result ∧
      result.scheme = scheme ∧ result.authority = authority := by
  intro bare result
  have pathRead (rest : List Char) (isPath : result = withPath kind bare [] rest) :
      EndsAuthority kind (result.path.write ++ result.tail) ∧
      IsVisible (result.path.write ++ result.tail) ∧
      withPathBehindAuthority kind bare (result.path.write ++ result.tail) = result ∧
      result.scheme = scheme ∧ result.authority = authority := by
    rw [isPath]
    obtain ⟨again, written, same, -⟩ := withPath_write kind bare rest
    rw [written]
    refine ⟨fun next inside => ?_, written ▸ isVisible_withPath kind bare rest, ?_, rfl, rfl⟩
    · obtain rfl := Option.some.inj inside
      simp [SchemeKind.endsAuthority, SchemeKind.isSlash]
    · rw [withPathBehindAuthority, if_pos (by simp [SchemeKind.isSlash]), same]
  have tailRead (notSpecial : kind.isSpecial = false) (escaped : result.HasEscapedTail kind)
      (same : result = { bare with query := result.query, fragment := result.fragment }) :
      EndsAuthority kind (result.path.write ++ result.tail) ∧
      IsVisible (result.path.write ++ result.tail) ∧
      withPathBehindAuthority kind bare (result.path.write ++ result.tail) = result ∧
      result.scheme = scheme ∧ result.authority = authority := by
    have noPath : result.path.write = [] := by
      rw [same]
      rfl
    rw [noPath, List.nil_append]
    refine ⟨fun next inside => ?_, escaped.isVisible, ?_, by rw [same], by rw [same]⟩
    · obtain ⟨rest, equal⟩ := List.head?_eq_some_iff.mp inside
      have mark := endsPath_of_head_tail result rest next equal
      simp only [endsPath, Bool.or_eq_true] at mark
      simp only [SchemeKind.endsAuthority, Bool.or_assoc, Bool.or_eq_true]
      exact .inr mark
    · have read := withTail_tail kind result bare escaped
      cases equal : result.tail with
      | nil =>
        rw [equal] at read
        rw [withPathBehindAuthority, if_neg (by simp [notSpecial]), same, ← read]
        rfl
      | cons next rest =>
        have mark := endsPath_of_head_tail result rest next equal
        have noSlash : kind.isSlash next = false := by
          obtain rfl | rfl := (endsPath_iff next).mp mark <;> rfl
        rw [withPathBehindAuthority, if_neg (by simp [noSlash]),
          if_neg (by simp [notSpecial, mark]), ← equal, read]
        exact same.symm
  rcases isText : text with _ | ⟨next, rest⟩
  · by_cases special : kind.isSpecial = true
    · exact pathRead [] (by simp only [result, isText, withPathBehindAuthority, if_pos special])
    · have isBare : result = bare := by
        simp only [result, isText, withPathBehindAuthority, if_neg special]
      have noTail : bare.HasEscapedTail kind := by
        constructor
        · intro text isQuery
          cases isQuery
        · intro text isFragment
          cases isFragment
      rw [isBare] at tailRead ⊢
      exact tailRead (by simpa using special) noTail rfl
  · by_cases slash : kind.isSlash next = true
    · exact pathRead rest (by simp only [result, isText, withPathBehindAuthority, if_pos slash])
    · by_cases inPath : (kind.isSpecial || !endsPath next) = true
      · exact pathRead text
          (by simp only [result, isText, withPathBehindAuthority, if_neg slash, if_pos inPath])
      · have isTail : result = withTail kind bare text := by
          simp only [result, isText, withPathBehindAuthority, if_neg slash, if_neg inPath]
        have general : kind.isSpecial = false := by
          rw [Bool.or_eq_true, not_or] at inPath
          simpa using inPath.1
        exact tailRead general (isTail ▸ hasEscapedTail_withTail kind bare text)
          (by rw [isTail]; rfl)

end Url

end ConfinedHttp
