import ConfinedHttp.Proofs.Url.HostReading
import ConfinedHttp.Proofs.Url.SegmentReading
import ConfinedHttp.Url.Join

namespace ConfinedHttp

/-- A chain of steps that may fail succeeds step by step. -/
theorem exists_of_bind_eq_ok {ε α β : Type} {first : Except ε α} {next : α → Except ε β}
    {result : β} (chain : (first >>= next) = .ok result) :
    ∃ value, first = .ok value ∧ next value = .ok result := by
  cases first with
  | error cause => cases chain
  | ok value => exact ⟨value, rfl, chain⟩

theorem SchemeKind.of_eq_file (scheme : String) :
    SchemeKind.of scheme = .file ↔ scheme = "file" := by
  constructor
  · intro isFile
    unfold SchemeKind.of at isFile
    split at isFile <;> first | rfl | cases isFile
  · rintro rfl
    rfl

namespace Url

/-- Reading settles every segment of the path.  A file has nothing but a host in its authority, and
a URL of the web has an authority. -/
structure IsRead (url : Url) : Prop where
  settled : ∀ segment ∈ url.path.segments, Segments.IsSettled (SchemeKind.of url.scheme) segment
  file : url.scheme = "file" → ∃ host, url.authority = some ⟨"", none, host, none⟩ ∧
    StaysInAuthority host.write ∧ (host.write = [] → host = .empty)
  web : ∀ port, SchemeKind.of url.scheme = .web port → url.authority.isSome

/-- What reading makes sure of does not depend on the query and the fragment. -/
theorem IsRead.of_same {url other : Url} (read : url.IsRead) (scheme : other.scheme = url.scheme)
    (authority : other.authority = url.authority)
    (settled : ∀ segment ∈ other.path.segments,
      Segments.IsSettled (SchemeKind.of other.scheme) segment) : other.IsRead where
  settled := settled
  file := by
    rw [scheme, authority]
    exact read.file
  web := by
    rw [scheme, authority]
    exact read.web

@[simp] theorem path_withPath (kind : SchemeKind) (url : Url) (stack : List String)
    (text : List Char) :
    (withPath kind url stack text).path =
      .rooted (Segments.read kind stack (text.takeWhile (!endsPath ·))) := rfl

theorem isRead_withTail {url : Url} (kind : SchemeKind) (text : List Char) (read : url.IsRead) :
    (withTail kind url text).IsRead :=
  read.of_same rfl rfl read.settled

/-- A path read from settled segments on keeps a URL read. -/
theorem isRead_withPath (url : Url) (stack : List String) (text : List Char) (read : url.IsRead)
    (below : ∀ segment ∈ stack, Segments.IsSettled (SchemeKind.of url.scheme) segment) :
    (withPath (SchemeKind.of url.scheme) url stack text).IsRead :=
  read.of_same rfl rfl (Segments.isSettled_of_mem_read _ _ _ below)

@[simp] theorem scheme_withPathBehindAuthority (kind : SchemeKind) (url : Url) (text : List Char) :
    (withPathBehindAuthority kind url text).scheme = url.scheme := by
  rw [withPathBehindAuthority.eq_def]
  split <;> split
  · rfl
  · rfl
  · rfl
  · split <;> rfl

theorem isRead_withPathBehindAuthority (url : Url) (text : List Char) (read : url.IsRead) :
    (withPathBehindAuthority (SchemeKind.of url.scheme) url text).IsRead := by
  have started (rest : List Char) := isRead_withPath url [] rest read (by simp)
  rw [withPathBehindAuthority.eq_def]
  split
  · split
    · exact started []
    · exact read
  · split
    · exact started _
    · split
      · exact started _
      · exact isRead_withTail _ _ read

/-- A URL without segments is read when its authority is. -/
theorem isRead_of_authority (scheme : String) (authority : Authority)
    (notFile : SchemeKind.of scheme ≠ .file) :
    Url.IsRead ⟨scheme, some authority, .rooted [], none, none⟩ where
  settled := by simp [Path.segments]
  file isFile := absurd ((SchemeKind.of_eq_file scheme).mpr isFile) notFile
  web _ _ := rfl

theorem isRead_of_readAuthority (scheme : String) (notFile : SchemeKind.of scheme ≠ .file)
    (text : List Char) (url : Url) (read : readAuthority scheme text = .ok url) : url.IsRead := by
  rw [readAuthority] at read
  obtain ⟨⟨⟨username, password⟩, behindUser⟩, -, read⟩ := exists_of_bind_eq_ok read
  obtain ⟨⟨host, behindHost⟩, -, read⟩ := exists_of_bind_eq_ok read
  obtain ⟨⟨port, behindPort⟩, -, read⟩ := exists_of_bind_eq_ok read
  dsimp only at read
  split at read
  · cases read
  · rw [← Except.ok.inj read]
    exact isRead_withPathBehindAuthority _ _ (isRead_of_authority scheme _ notFile)

theorem isRead_of_readGeneral (scheme : String) (general : SchemeKind.of scheme = .general)
    (text : List Char) (url : Url) (read : readGeneral scheme text = .ok url) : url.IsRead := by
  have bare (path : Path) (none : path.segments = []) :
      Url.IsRead ⟨scheme, .none, path, .none, .none⟩ :=
    { settled := by simp [none]
      file := fun isFile => by simp [(SchemeKind.of_eq_file scheme).mpr isFile] at general
      web := fun port isWeb => by simp [isWeb] at general }
  rw [readGeneral.eq_def] at read
  split at read
  · exact isRead_of_readAuthority scheme (by simp [general]) _ url read
  · rw [← Except.ok.inj read, ← general]
    exact isRead_withPath _ [] _ (bare _ rfl) (by simp)
  · rw [← Except.ok.inj read]
    exact isRead_withTail _ _ (bare _ rfl)

theorem isRead_onHost (host : Host) (stays : StaysInAuthority host.write)
    (some : host.write = [] → host = .empty) : (onHost host).IsRead where
  settled := by simp [onHost, localFile, Path.segments]
  file _ := by
    refine ⟨if host = .name "localhost" then .empty else host, rfl, ?_, ?_⟩
    · split
      · simp [StaysInAuthority, Host.write]
      · exact stays
    · split
      · simp
      · exact some
  web port isWeb := by cases isWeb

theorem isRead_localFile : localFile.IsRead :=
  isRead_onHost .empty (by decide) fun _ => rfl

/-- The file paths of this machine are read. -/
theorem isRead_localPath (text : List Char) : (withPath .file localFile [] text).IsRead :=
  isRead_withPath localFile [] text isRead_localFile (by simp)

theorem isRead_withoutHostOfDrive {url : Url} (isFile : url.scheme = "file") (read : url.IsRead) :
    url.withoutHostOfDrive.IsRead := by
  rw [withoutHostOfDrive]
  split
  · exact
      { settled := read.settled
        file := fun _ => isRead_localFile.file rfl
        web := fun port isWeb => by simp [(SchemeKind.of_eq_file _).mpr isFile] at isWeb }
  · exact read

theorem isRead_of_readFileHost (text : List Char) (url : Url) (read : readFileHost text = .ok url) :
    url.IsRead := by
  rw [readFileHost] at read
  split at read
  · rw [← Except.ok.inj read]
    exact isRead_localPath text
  split at read
  · rw [← Except.ok.inj read]
    exact isRead_withPathBehindAuthority localFile _ isRead_localFile
  · obtain ⟨host, isHost, read⟩ := exists_of_bind_eq_ok read
    rw [← Except.ok.inj read]
    have placed := isRead_onHost host (Host.staysInAuthority_write_of_readSpecial _ host isHost)
      fun empty => absurd empty (Host.write_ne_nil_of_readSpecial _ host isHost)
    exact isRead_withoutHostOfDrive (scheme_withPathBehindAuthority ..)
      (isRead_withPathBehindAuthority (onHost host) _ placed)

theorem isRead_of_readFile (text : List Char) (url : Url) (read : readFile text = .ok url) :
    url.IsRead := by
  rw [readFile.eq_def] at read
  split at read
  · split at read
    · split at read
      · exact isRead_of_readFileHost _ url read
      · rw [← Except.ok.inj read]
        exact isRead_localPath _
    · rw [← Except.ok.inj read]
      exact isRead_localPath _
  · rw [← Except.ok.inj read]
    exact isRead_localPath _
  · rw [← Except.ok.inj read]
    exact isRead_localPath _

theorem isRead_of_readBehindScheme (scheme : String) (text : List Char) (url : Url)
    (read : readBehindScheme scheme text = .ok url) : url.IsRead := by
  rw [readBehindScheme] at read
  split at read
  case h_1 port isWeb => exact isRead_of_readAuthority scheme (by simp [isWeb]) _ url read
  case h_2 => exact isRead_of_readFile text url read
  case h_3 general => exact isRead_of_readGeneral scheme general text url read

/-- Every URL that was read from a text is read. -/
theorem isRead_of_parse (text : String) (url : Url) (parsed : parse text = .ok url) :
    url.IsRead := by
  rw [parse] at parsed
  split at parsed
  · exact isRead_of_readBehindScheme _ _ url parsed
  · cases parsed

end Url

end ConfinedHttp
