import ConfinedHttp.Proofs.Url.UrlRereading

/-!
Making the path of a URL a directory puts at most one slash behind it.  What comes out could have been
read from a text in the same way, so it is in normal form, too.
-/

namespace ConfinedHttp

/-- This function makes a path end in a slash. -/
def Path.asDirectory : Path → Path
  | rootless text => rootless text
  | rooted segments =>
    if segments.getLast? = some "" then rooted segments else rooted (segments ++ [""])

namespace Segments

variable {kind : SchemeKind} {segments : List String}

theorem isFixed_root (kind : SchemeKind) : IsFixed kind [""] where
  notEmpty := by simp
  settled := by simpa using isSettled_empty kind
  written := by simpa using escape_empty kind
  filed _ := rfl

/-- Segments that stay the same do so with an empty one behind them. -/
theorem IsFixed.append_empty (fixed : IsFixed kind segments) (isOpen : segments.getLast? ≠ some "") :
    IsFixed kind (segments ++ [""]) where
  notEmpty := by simp
  settled := List.forall_mem_append.mpr ⟨fixed.settled, by simpa using isSettled_empty kind⟩
  written := List.forall_mem_append.mpr ⟨fixed.written, by simpa using escape_empty kind⟩
  filed isFile := by
    have filed := fixed.filed isFile
    obtain empty | ⟨first, rest, filled, equal⟩ := withoutLeadingEmpty_cases segments
    · rw [← filed, empty] at isOpen
      exact absurd rfl isOpen
    · rw [← filed, equal, List.cons_append, withoutLeadingEmpty_cons first _ filled]

/-- The segments of a directory stay the same if those of its path do. -/
theorem IsFixed.asDirectory (fixed : IsFixed kind segments) :
    ∃ others, (Path.rooted segments).asDirectory = .rooted others ∧ IsFixed kind others := by
  rw [Path.asDirectory]
  split
  case isTrue => exact ⟨segments, rfl, fixed⟩
  case isFalse isOpen => exact ⟨_, rfl, fixed.append_empty isOpen⟩

end Segments

namespace Path

/-- A written path ends in a slash exactly when its last segment is empty. -/
theorem getLast?_write_rooted (segments : List String)
    (clean : ∀ segment ∈ segments, '/' ∉ segment.toList) :
    (rooted segments).write.getLast? = some '/' ↔ segments.getLast? = some "" := by
  obtain rfl | ⟨front, last, rfl⟩ := List.eq_nil_or_concat segments
  · simp
  · have whole := clean last (by simp)
    have behind : (rooted [last]).write = '/' :: last.toList := by simp
    rw [List.concat_eq_append, write_rooted_append, behind, List.getLast?_append_cons,
      List.getLast?_concat, Option.some.injEq, ← String.toList_inj]
    cases equal : last.toList with
    | nil => simp
    | cons first rest =>
      rw [equal] at whole
      have notSlash : (first :: rest).getLast? ≠ some '/' := fun ends =>
        whole (List.mem_of_getLast? ends)
      rw [List.getLast?_cons_cons]
      simp [notSlash]

/-- A directory has the same drive letters as its path. -/
theorem any_segments_asDirectory (path : Path) (test : String → Bool) (passes : test "" = false) :
    path.asDirectory.segments.any test = path.segments.any test := by
  cases path with
  | rootless => rfl
  | rooted inside =>
    rw [asDirectory]
    split
    · rfl
    · simp [Path.segments, passes]

end Path

namespace Url

/-- This function makes the path of a URL end in a slash. -/
def asDirectory (url : Url) : Url := { url with path := url.path.asDirectory }

/-- Segments that stay the same are read from what they write. -/
theorem withPath_of_isFixed {kind : SchemeKind} {segments : List String} (url : Url)
    (fixed : Segments.IsFixed kind segments) :
    withPath kind url [] (['/'].intercalate (segments.map String.toList)) =
      ⟨url.scheme, url.authority, .rooted segments, none, none⟩ := by
  obtain ⟨taken, dropped⟩ := takeWhile_dropWhile_append (!endsPath ·)
    (['/'].intercalate (segments.map String.toList)) []
    (fun character inside => by rw [fixed.not_endsPath character inside]; rfl) (by simp)
  rw [List.append_nil] at taken dropped
  rw [withPath, taken, dropped, fixed.read_intercalate]
  rfl

/-- Behind an authority stands a path, or nothing but a query and a fragment. -/
theorem withPathBehindAuthority_cases (kind : SchemeKind) (url : Url) (text : List Char) :
    (∃ rest, withPathBehindAuthority kind url text = withPath kind url [] rest) ∨
      ∃ query fragment, withPathBehindAuthority kind url text =
        { url with query := query, fragment := fragment } := by
  rw [withPathBehindAuthority.eq_def]
  split
  · split
    · exact .inl ⟨[], rfl⟩
    · exact .inr ⟨url.query, url.fragment, rfl⟩
  · split
    · exact .inl ⟨_, rfl⟩
    · split
      · exact .inl ⟨_, rfl⟩
      · exact .inr ⟨_, _, rfl⟩

section Directory

variable {url : Url} (noQuery : url.query = none) (noFragment : url.fragment = none)

include noQuery noFragment

/-- A path that is made a directory could have been read. -/
theorem exists_withPath_asDirectory {kind : SchemeKind} {base : Url} {text : List Char}
    (isPath : url = withPath kind base [] text) :
    ∃ other, url.asDirectory = withPath kind base [] other := by
  obtain ⟨others, isDirectory, fixed⟩ :=
    (Segments.isFixed_read kind (text.takeWhile (!endsPath ·))).asDirectory
  refine ⟨['/'].intercalate (others.map String.toList), ?_⟩
  rw [withPath_of_isFixed base fixed, ← isDirectory, asDirectory, noQuery, noFragment, isPath]
  rfl

/-- A URL that is made a directory could have been read. -/
theorem IsBuilt.asDirectory {scheme : String} (built : url.IsBuilt scheme) :
    url.asDirectory.IsBuilt scheme := by
  cases built with
  | behindAuthority _ notFile authority isRead text =>
    let base : Url := ⟨scheme, some authority, .rooted [], none, none⟩
    have behindSlash (other : List Char) :
        withPathBehindAuthority (SchemeKind.of scheme) base ('/' :: other) =
          withPath (SchemeKind.of scheme) base [] other := by
      rw [withPathBehindAuthority, if_pos (by simp [SchemeKind.isSlash])]
    have built (other : List Char) :
        (withPath (SchemeKind.of scheme) base [] other).IsBuilt scheme := by
      rw [← behindSlash]
      exact .behindAuthority scheme notFile authority isRead _
    obtain ⟨rest, isPath⟩ | ⟨query, fragment, isBare⟩ :=
      withPathBehindAuthority_cases (SchemeKind.of scheme) base text
    · obtain ⟨other, equal⟩ := exists_withPath_asDirectory noQuery noFragment isPath
      rw [equal]
      exact built other
    · have root := withPath_of_isFixed base (Segments.isFixed_root (SchemeKind.of scheme))
      have equal : (withPathBehindAuthority (SchemeKind.of scheme) base text).asDirectory =
          withPath (SchemeKind.of scheme) base []
            (['/'].intercalate ([""].map String.toList)) := by
        rw [root, Url.asDirectory, noQuery, noFragment, isBare]
        rfl
      rw [equal]
      exact built _
  | withoutAuthority _ general text =>
    obtain ⟨other, equal⟩ := exists_withPath_asDirectory noQuery noFragment rfl
    rw [equal]
    exact .withoutAuthority scheme general other
  | onThisMachine text =>
    obtain ⟨other, equal⟩ := exists_withPath_asDirectory noQuery noFragment rfl
    rw [equal]
    exact .onThisMachine other
  | onOtherMachine source host read remote text noDrive =>
    obtain ⟨other, equal⟩ := exists_withPath_asDirectory noQuery noFragment rfl
    have noDriveOther : ¬ (withPath .file (onHost host) [] other).path.segments.any
        fun segment => Segments.isDrive segment.toList := by
      rw [← equal, Url.asDirectory, Path.any_segments_asDirectory _ _ (by rfl)]
      exact noDrive
    rw [equal]
    exact .onOtherMachine source host read remote other noDriveOther

end Directory

/-- The written path of a URL ends in a slash exactly when its last segment is empty. -/
theorem IsRead.getLast?_write_path {url : Url} (read : url.IsRead)
    (hasRoot : url.isRootless = false) :
    url.path.write.getLast? = some '/' ↔ url.path.segments.getLast? = some "" := by
  rw [exists_path_eq_rooted hasRoot]
  exact Path.getLast?_write_rooted _ fun segment inside =>
    (read.settled segment inside).not_mem_slash

/-- A URL without an authority has a path with a segment. -/
theorem IsBuilt.exists_segment {scheme : String} {url : Url} (built : url.IsBuilt scheme)
    (noAuthority : url.authority = none) : ∃ rest, url.path.write = '/' :: rest := by
  have read (kind : SchemeKind) (base : Url) (text : List Char) :
      ∃ rest, (withPath kind base [] text).path.write = '/' :: rest :=
    ⟨_, Path.write_rooted_eq_intercalate _ (Segments.isFixed_read kind _).notEmpty⟩
  cases built with
  | behindAuthority _ notFile authority isRead text =>
    obtain ⟨-, -, -, -, isAuthority⟩ :=
      withPathBehindAuthority_write (SchemeKind.of scheme) scheme (some authority) text
    rw [isAuthority] at noAuthority
    cases noAuthority
  | withoutAuthority _ general text => exact read _ _ text
  | onThisMachine text => exact read _ _ text
  | onOtherMachine source host isHost remote text noDrive => exact read _ _ text

/-- A URL has no segments, or they stay the same when they are read again. -/
theorem IsBuilt.segments_cases {scheme : String} {url : Url} (built : url.IsBuilt scheme) :
    url.path.segments = [] ∨ Segments.IsFixed (SchemeKind.of scheme) url.path.segments := by
  cases built with
  | behindAuthority _ notFile authority isRead text =>
    obtain ⟨rest, isPath⟩ | ⟨query, fragment, isBare⟩ :=
      withPathBehindAuthority_cases (SchemeKind.of scheme)
        ⟨scheme, some authority, .rooted [], none, none⟩ text
    · rw [isPath]
      exact .inr (Segments.isFixed_read _ _)
    · rw [isBare]
      exact .inl rfl
  | withoutAuthority _ general text =>
    rw [general]
    exact .inr (Segments.isFixed_read _ _)
  | onThisMachine text => exact .inr (Segments.isFixed_read .file _)
  | onOtherMachine source host isHost remote text noDrive =>
    exact .inr (Segments.isFixed_read .file _)

/-- Reading a path again with a slash behind it makes it a directory. -/
theorem IsBuilt.setPath_write {url : Url} (built : url.IsBuilt url.scheme) (read : url.IsRead)
    (hasRoot : url.isRootless = false) :
    (if url.path.write.getLast? = some '/' then url else url.setPath (url.path.write ++ ['/'])) =
      url.asDirectory := by
  have isRooted := exists_path_eq_rooted hasRoot
  have ends := read.getLast?_write_path hasRoot
  by_cases closed : url.path.segments.getLast? = some ""
  · rw [if_pos (ends.mpr closed), Url.asDirectory, isRooted, Path.asDirectory, if_pos closed,
      ← isRooted]
  · have fixed : Segments.IsFixed (SchemeKind.of url.scheme) (url.path.segments ++ [""]) := by
      obtain empty | fixed := built.segments_cases
      · rw [empty]
        exact Segments.isFixed_root _
      · exact fixed.append_empty closed
    have text : url.path.write ++ ['/'] =
        '/' :: ['/'].intercalate ((url.path.segments ++ [""]).map String.toList) := by
      rw [← Path.write_rooted_eq_intercalate _ fixed.notEmpty, Path.write_rooted_append, ← isRooted]
      rfl
    have slash : (SchemeKind.of url.scheme).isSlash '/' = true := rfl
    have isDirectory : url.path.asDirectory = .rooted (url.path.segments ++ [""]) := by
      rw [isRooted]
      exact if_neg closed
    rw [if_neg (ends.not.mpr closed), text, Url.asDirectory, isDirectory, setPath]
    simp only [slash, if_true]
    rw [fixed.read_intercalate]

/-- The text of a directory is the text of the URL, with one slash behind it if its path does not
end in one. -/
theorem write_asDirectory {scheme : String} {url : Url} (built : url.IsBuilt scheme)
    (read : url.IsRead) (hasRoot : url.isRootless = false) (noQuery : url.query = none)
    (noFragment : url.fragment = none) :
    url.asDirectory.write =
      if url.path.write.getLast? = some '/' then url.write else url.write ++ ['/'] := by
  have isRooted := exists_path_eq_rooted hasRoot
  have ends := read.getLast?_write_path hasRoot
  by_cases closed : url.path.segments.getLast? = some ""
  · have same : url.asDirectory = url := by
      rw [asDirectory, isRooted, Path.asDirectory, if_pos closed, ← isRooted]
    rw [if_pos (ends.mpr closed), same]
  · have isPath : url.path.asDirectory.write = url.path.write ++ ['/'] := by
      rw [isRooted, Path.asDirectory, if_neg closed, Path.write_rooted_append]
      rfl
    have isAuthority : url.asDirectory.writeAuthority = url.writeAuthority := by
      simp only [writeAuthority, asDirectory, isPath]
      cases noAuthority : url.authority with
      | some authority => rfl
      | none =>
        -- the path is not one slash alone, so that its first two characters stay
        obtain ⟨rest, written⟩ := built.exists_segment noAuthority
        cases rest with
        | nil =>
          rw [← ends, written] at closed
          exact absurd rfl closed
        | cons second others => simp [written]
    have noTail : url.tail = [] := by simp [tail, noQuery, noFragment, writeMarked]
    have noTailBehind : url.asDirectory.tail = [] := noTail
    rw [if_neg (ends.not.mpr closed), write_eq, write_eq, isAuthority, noTail, noTailBehind]
    simp [asDirectory, isPath]

end Url

namespace Prefix

/-- A URL with a root and without a query and a fragment is stored as a directory. -/
theorem parse_of_usable (field raw : String) (url : Url) (parsed : Url.parse raw = .ok url)
    (hasRoot : url.isRootless = false) (noQuery : url.query = none)
    (noFragment : url.fragment = none) : parse field raw = .ok ⟨url.asDirectory⟩ := by
  obtain ⟨built, -⟩ := Url.isBuilt_of_parse raw url parsed hasRoot
  rw [parse, parsed, ← built.setPath_write (Url.isRead_of_parse raw url parsed) hasRoot]
  exact if_neg (by simp [hasRoot, noQuery, noFragment])

/-- Only such a URL is stored. -/
theorem exists_of_parse_eq_ok (field raw : String) (confines : Prefix)
    (accepted : parse field raw = .ok confines) :
    ∃ url, Url.parse raw = .ok url ∧ url.isRootless = false ∧ url.query = none ∧
      url.fragment = none ∧ confines = ⟨url.asDirectory⟩ := by
  cases parsed : Url.parse raw with
  | error cause =>
    rw [parse, parsed] at accepted
    cases accepted
  | ok url =>
    by_cases unusable : (url.isRootless || url.query.isSome || url.fragment.isSome) = true
    · rw [parse, parsed] at accepted
      exact nomatch (if_pos unusable).symm.trans accepted
    · simp only [Bool.or_eq_true, not_or, Bool.not_eq_true, Option.isSome_eq_false_iff,
        Option.isNone_iff_eq_none] at unusable
      obtain ⟨⟨hasRoot, noQuery⟩, noFragment⟩ := unusable
      have stored := parse_of_usable field raw url parsed hasRoot noQuery noFragment
      exact ⟨url, rfl, hasRoot, noQuery, noFragment,
        Except.ok.inj (accepted.symm.trans stored)⟩

/-- A directory path ends in an empty segment. -/
theorem exists_asDirectory (segments : List String) :
    ∃ front, (Path.rooted segments).asDirectory = .rooted (front ++ [""]) ∧
      ∀ segment ∈ front, segment ∈ segments := by
  rw [Path.asDirectory]
  split
  case isTrue last =>
    obtain ⟨front, rfl⟩ := List.getLast?_eq_some_iff.mp last
    exact ⟨front, rfl, fun segment inside => List.mem_append_left _ inside⟩
  case isFalse => exact ⟨segments, rfl, fun segment inside => inside⟩

theorem isDirectory_of_parse (field raw : String) (confines : Prefix)
    (accepted : parse field raw = .ok confines) : confines.IsDirectory := by
  obtain ⟨url, parsed, hasRoot, noQuery, noFragment, rfl⟩ :=
    exists_of_parse_eq_ok field raw confines accepted
  have read := Url.isRead_of_parse raw url parsed
  have isRooted := Url.exists_path_eq_rooted hasRoot
  obtain ⟨front, isDirectory, kept⟩ := exists_asDirectory url.path.segments
  rw [← isRooted] at isDirectory
  refine ⟨read.of_same rfl rfl ?_, ⟨front, isDirectory⟩, noQuery, noFragment⟩
  intro segment inside
  rw [Url.asDirectory, isDirectory] at inside
  obtain before | last := List.mem_append.mp inside
  · exact read.settled segment (kept segment before)
  · rw [List.mem_singleton.mp last]
    exact Segments.isSettled_empty _

end Prefix

end ConfinedHttp
