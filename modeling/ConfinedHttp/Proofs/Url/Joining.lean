import ConfinedHttp.Prefix
import ConfinedHttp.Proofs.Url.UrlReading

namespace ConfinedHttp

/-- What a parser takes a reference for: a scheme or an authority names another place, and a slash
starts at the root. -/
def Reference.kind : Reference → Prefix.ReferenceKind
  | absolute _ _ => .foreign
  | relative (.network _) => .foreign
  | relative (.rooted _) => .rooted
  | relative _ => .relative

namespace Url

theorem settled_of_mem_parentSegments {base : Url} (read : base.IsRead) :
    ∀ segment ∈ base.parentSegments, Segments.IsSettled (SchemeKind.of base.scheme) segment := by
  intro segment inside
  rw [parentSegments] at inside
  split at inside
  · exact read.settled segment inside
  · exact read.settled segment (List.mem_of_mem_dropLast inside)

/-- What a reference that is neither foreign nor rooted keeps of the base.  A drive letter takes a
file back to this machine. -/
structure KeepsPlace (base joined : Url) : Prop where
  read : joined.IsRead
  scheme : joined.scheme = base.scheme
  authority : joined.authority = base.authority ∨
    base.scheme = "file" ∧ joined.authority = localFile.authority
  hasRoot : joined.isRootless = false

theorem keepsPlace_joinPath {base : Url} (read : base.IsRead) (text : List Char) :
    base.KeepsPlace (base.joinPath text) := by
  rw [joinPath]
  split
  case isTrue drive =>
    exact
      { read := isRead_localPath text
        scheme := drive.1.symm
        authority := .inr ⟨drive.1, rfl⟩
        hasRoot := rfl }
  case isFalse =>
    exact
      { read := isRead_withPath _ _ text read (settled_of_mem_parentSegments read)
        scheme := rfl
        authority := .inl rfl
        hasRoot := rfl }

/-- A URL that differs from the base at most in query and fragment keeps its place. -/
theorem keepsPlace_of_same {base joined : Url} (read : base.IsRead)
    (hasRoot : base.isRootless = false) (scheme : joined.scheme = base.scheme)
    (authority : joined.authority = base.authority)
    (path : joined.path = base.path) : base.KeepsPlace joined where
  read := read.of_same scheme authority (by
    rw [scheme, path]
    exact read.settled)
  scheme := scheme
  authority := .inl authority
  hasRoot := by rw [isRootless, path]; exact hasRoot

/-- A reference without a scheme is resolved against every URL whose path has a root. -/
theorem join_of_read_relative {base : Url} (hasRoot : base.isRootless = false) (reference : String)
    (relative : RelativeReference) (isRead : Reference.read reference = .relative relative) :
    base.join reference = base.joinRelative relative := by
  cases relative <;> simp [join, isRead, hasRoot]

/-- Resolving a reference that is neither foreign nor rooted never fails. -/
theorem exists_join_of_relative {base : Url} (read : base.IsRead)
    (hasRoot : base.isRootless = false) (reference : String)
    (relative : (Reference.read reference).kind = .relative) :
    ∃ joined, base.join reference = .ok joined ∧ base.KeepsPlace joined := by
  cases isRead : Reference.read reference with
  | absolute => simp [isRead, Reference.kind] at relative
  | relative kept =>
    rw [join_of_read_relative hasRoot reference kept isRead]
    rw [isRead] at relative
    cases kept with
    | same => exact ⟨_, rfl, keepsPlace_of_same read hasRoot rfl rfl rfl⟩
    | query => exact ⟨_, rfl, keepsPlace_of_same read hasRoot rfl rfl rfl⟩
    | fragment => exact ⟨_, rfl, keepsPlace_of_same read hasRoot rfl rfl rfl⟩
    | network => simp [Reference.kind] at relative
    | rooted => simp [Reference.kind] at relative
    | path text => exact ⟨_, rfl, keepsPlace_joinPath read text⟩

end Url

namespace Prefix

/-- A prefix was read from a text, and it is a directory without a query and a fragment. -/
structure IsDirectory (confines : Prefix) : Prop where
  read : confines.url.IsRead
  path : ∃ front, confines.url.path = .rooted (front ++ [""])
  query : confines.url.query = none
  fragment : confines.url.fragment = none

theorem IsDirectory.hasRoot {confines : Prefix} (directory : confines.IsDirectory) :
    confines.url.isRootless = false := by
  obtain ⟨front, isRooted⟩ := directory.path
  simp [Url.isRootless, isRooted]

end Prefix

end ConfinedHttp
