import ConfinedHttp.Proofs.Url.Joining

namespace ConfinedHttp

/-- The marks of a query and of a fragment end a path. -/
theorem Url.endsPath_iff (character : Char) :
    Url.endsPath character = true ↔ character = '?' ∨ character = '#' := by
  simp [Url.endsPath]

namespace Segments

/-- A settled segment has no mark of a query or a fragment in it. -/
theorem IsSettled.not_endsPath {kind : SchemeKind} {segment : String}
    (settled : IsSettled kind segment) :
    ∀ character ∈ segment.toList, Url.endsPath character = false := by
  intro character inside
  by_contra mark
  have mark := (Url.endsPath_iff character).mp ((Bool.not_eq_false _).mp mark)
  have kept := (settled.escaped character inside).2
  rcases mark with rfl | rfl <;> exact absurd kept (by decide)

theorem IsSettled.not_mem_slash {kind : SchemeKind} {segment : String}
    (settled : IsSettled kind segment) : '/' ∉ segment.toList := by
  intro inside
  have whole := settled.whole '/' inside
  simp [SchemeKind.isSlash] at whole

end Segments

namespace Path

@[simp] theorem write_rooted_nil : (rooted []).write = [] := rfl

@[simp] theorem write_rooted_cons (segment : String) (rest : List String) :
    (rooted (segment :: rest)).write = '/' :: segment.toList ++ (rooted rest).write := rfl

theorem write_rooted_append (front back : List String) :
    (rooted (front ++ back)).write = (rooted front).write ++ (rooted back).write :=
  List.flatMap_append

/-- A rooted path with a segment starts with a slash, and slashes stand between its segments. -/
theorem write_rooted_eq_intercalate (segments : List String) (some : segments ≠ []) :
    (rooted segments).write = '/' :: ['/'].intercalate (segments.map String.toList) := by
  induction segments with
  | nil => exact absurd rfl some
  | cons first rest inductionHypothesis =>
    cases rest with
    | nil => simp
    | cons next others =>
      rw [write_rooted_cons, inductionHypothesis (by simp)]
      simp [List.intercalate_cons_cons]

/-- In a directory path a slash stands behind each segment. -/
theorem write_directory (base : List String) :
    (rooted (base ++ [""])).write = '/' :: base.flatMap fun segment => segment.toList ++ ['/'] := by
  induction base with
  | nil => rfl
  | cons segment rest inductionHypothesis =>
    rw [List.cons_append, write_rooted_cons, inductionHypothesis]
    simp

/-- One directory path starts another path exactly when its segments do and one more follows. -/
theorem write_directory_isPrefix_iff (base reached : List String)
    (baseClean : ∀ segment ∈ base, '/' ∉ segment.toList)
    (reachedClean : ∀ segment ∈ reached, '/' ∉ segment.toList) :
    (rooted (base ++ [""])).write <+: (rooted reached).write ↔
      ∃ further, further ≠ [] ∧ reached = base ++ further := by
  induction base generalizing reached with
  | nil => cases reached <;> simp
  | cons segment rest inductionHypothesis =>
    obtain ⟨more, opened⟩ : ∃ more, (rooted (rest ++ [""])).write = '/' :: more := by
      cases rest <;> exact ⟨_, rfl⟩
    have whole := baseClean segment (List.mem_cons_self ..)
    cases reached with
    | nil => simp
    | cons other others =>
      have tail := inductionHypothesis others
        (fun each inside => baseClean each (List.mem_cons_of_mem _ inside))
        (fun each inside => reachedClean each (List.mem_cons_of_mem _ inside))
      have otherWhole := reachedClean other (List.mem_cons_self ..)
      rw [List.cons_append, write_rooted_cons, write_rooted_cons, List.cons_append,
        List.cons_append, List.cons_prefix_cons, opened]
      cases others with
      | nil =>
        have noSlash : ¬ segment.toList ++ '/' :: more <+: other.toList :=
          fun within => otherWhole (within.subset (by simp))
        simp [noSlash]
      | cons next remaining =>
        -- both first segments end at a slash, so they are equal and the rest decides
        rw [write_rooted_cons, opened, List.cons_append, List.cons_prefix_cons] at tail
        rw [write_rooted_cons, List.cons_append, isPrefix_marked_iff '/' _ _ _ _ whole otherWhole,
          String.toList_inj]
        constructor
        · rintro ⟨-, rfl, within⟩
          obtain ⟨further, some, equal⟩ := tail.mp ⟨rfl, within⟩
          exact ⟨further, some, by rw [equal, List.cons_append]⟩
        · rintro ⟨further, some, equal⟩
          obtain ⟨rfl, behind⟩ := List.cons.inj equal
          exact ⟨rfl, rfl, (tail.mpr ⟨further, some, behind⟩).2⟩

end Path

namespace Url

/-- What stands behind the path in the text of a URL. -/
def tail (url : Url) : List Char := writeMarked '?' url.query ++ writeMarked '#' url.fragment

theorem write_eq (url : Url) :
    url.write =
      url.scheme.toList ++ ':' :: (url.writeAuthority ++ (url.path.write ++ url.tail)) := by
  simp [write, tail]

/-- A mark opens what stands behind the path. -/
theorem endsPath_of_head_tail (url : Url) (rest : List Char) (first : Char)
    (equal : url.tail = first :: rest) : endsPath first = true := by
  rw [tail] at equal
  cases query : url.query with
  | some text =>
    rw [query] at equal
    rw [← (List.cons.inj equal).1]
    rfl
  | none =>
    cases fragment : url.fragment with
    | some text =>
      rw [query, fragment] at equal
      rw [← (List.cons.inj equal).1]
      rfl
    | none => simp [query, fragment, writeMarked] at equal

/-- The segments of a rooted path. -/
theorem exists_path_eq_rooted {url : Url} (hasRoot : url.isRootless = false) :
    url.path = .rooted url.path.segments := by
  rw [isRootless] at hasRoot
  split at hasRoot
  · cases hasRoot
  case h_2 segments equal => rw [equal, Path.segments]

theorem not_endsPath_of_mem_write {url : Url} (read : url.IsRead)
    (hasRoot : url.isRootless = false) :
    ∀ character ∈ url.path.write, endsPath character = false := by
  rw [exists_path_eq_rooted hasRoot]
  intro character inside
  obtain ⟨segment, within, part⟩ := List.mem_flatMap.mp inside
  obtain rfl | here := List.mem_cons.mp part
  · rfl
  · exact (read.settled segment within).not_endsPath character here

/-- A text without marks in front of a URL's tail stands in the path alone. -/
theorem isPrefix_path_of_isPrefix (url : Url) (front : List Char)
    (plain : ∀ character ∈ front, endsPath character = false)
    (within : front <+: url.path.write ++ url.tail) : front <+: url.path.write := by
  obtain inPath | ⟨more, some, rfl, inTail⟩ := isPrefix_append_cases within
  · exact inPath
  · cases more with
    | nil => exact absurd rfl some
    | cons first rest =>
      obtain ⟨others, equal⟩ := inTail
      have mark := endsPath_of_head_tail url (rest ++ others) first equal.symm
      simp [plain first (by simp)] at mark

/-- A path never starts with a dot segment. -/
theorem not_dot_isPrefix_path {url : Url} (read : url.IsRead) (hasRoot : url.isRootless = false) :
    ¬ ['/', '.', '/'] <+: url.path.write := by
  rw [exists_path_eq_rooted hasRoot]
  cases equal : url.path.segments with
  | nil => simp
  | cons first rest =>
    have settled := read.settled first (by simp [equal])
    have noSlash := settled.not_mem_slash
    intro within
    rw [Path.write_rooted_cons, List.cons_append, List.cons_prefix_cons] at within
    cases rest with
    | nil =>
      rw [Path.write_rooted_nil, List.append_nil] at within
      exact noSlash (within.2.subset (by simp))
    | cons next others =>
      have isDot : ['.'] = first.toList :=
        ((isPrefix_marked_iff '/' ['.'] first.toList [] _ (by decide) noSlash).mp within.2).1
      have notDot := settled.notDot
      rw [← isDot] at notDot
      cases notDot

end Url

end ConfinedHttp
