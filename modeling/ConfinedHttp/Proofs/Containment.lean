import ConfinedHttp.Proofs.ReferenceReading
import ConfinedHttp.Proofs.SessionRun
import ConfinedHttp.Proofs.Url.WrittenPath

namespace ConfinedHttp

namespace Prefix

/-- A URL stays below a prefix when it has the scheme and the whole authority of the prefix, which
is user name, password, host and port, and a path that starts with the path of the prefix. -/
structure Confines (confines : Prefix) (url : Url) : Prop where
  scheme : url.scheme = confines.url.scheme
  authority : url.authority = confines.url.authority
  path : confines.url.path.write <+: url.path.write

/-- The path of a directory ends in a slash. -/
theorem IsDirectory.exists_write_path {confines : Prefix} (directory : confines.IsDirectory) :
    ∃ front, confines.url.path.write = front ++ ['/'] := by
  obtain ⟨front, isRooted⟩ := directory.path
  exact ⟨(Path.rooted front).write, by simp [isRooted, Path.write_rooted_append]⟩

theorem IsDirectory.tail_eq_nil {confines : Prefix} (directory : confines.IsDirectory) :
    confines.url.tail = [] := by
  simp [Url.tail, directory.query, directory.fragment, Url.writeMarked]

/-- The text of a URL behind the authority starts with a mark that ends the authority. -/
theorem endsAuthority_of_head (url : Url) (hasRoot : url.isRootless = false) (first : Char)
    (rest : List Char) (equal : url.path.write ++ url.tail = first :: rest) :
    SchemeKind.file.endsAuthority first = true := by
  rw [Url.exists_path_eq_rooted hasRoot] at equal
  cases segments : url.path.segments with
  | nil =>
    rw [segments] at equal
    have mark := Url.endsPath_of_head_tail url rest first equal
    rcases (Url.endsPath_iff first).mp mark with rfl | rfl <;> rfl
  | cons segment others =>
    rw [segments] at equal
    rw [← (List.cons.inj equal).1]
    rfl

/-- A file that moves to this machine stays below a prefix only if the prefix is there too. -/
theorem host_eq_empty_of_isPrefix (joined : Url) (hasRoot : joined.isRootless = false)
    (path : List Char) (host : Host) (stays : StaysInAuthority host.write)
    (some : host.write = [] → host = .empty)
    (within : host.write ++ path <+: joined.path.write ++ joined.tail) : host = .empty := by
  cases text : host.write with
  | nil => exact some text
  | cons first rest =>
    obtain ⟨others, equal⟩ := within
    rw [text, List.cons_append, List.cons_append] at equal
    have ends := endsAuthority_of_head joined hasRoot first _ equal.symm
    simp [stays first (by simp [text])] at ends

/-- A directory path whose text starts with a dot and a slash is only the root. -/
theorem IsDirectory.isPrefix_of_dot {confines : Prefix} (directory : confines.IsDirectory)
    (rest : List Char) (within : confines.url.path.write <+: '/' :: '.' :: '/' :: rest) :
    confines.url.path.write = ['/'] := by
  obtain ⟨front, isRooted⟩ := directory.path
  rw [isRooted] at within ⊢
  cases front with
  | nil => rfl
  | cons segment others =>
    have settled := directory.read.settled segment (by simp [isRooted, Path.segments])
    obtain ⟨more, next⟩ : ∃ more, (Path.rooted (others ++ [""])).write = '/' :: more := by
      cases others <;> exact ⟨_, rfl⟩
    rw [List.cons_append, Path.write_rooted_cons, next, List.cons_append, List.cons_prefix_cons]
      at within
    have isDot := ((isPrefix_marked_iff '/' segment.toList ['.'] more rest settled.not_mem_slash
      (by decide)).mp within.2).1
    have notDot := settled.notDot
    rw [isDot] at notDot
    cases notDot

/-- Without an authority, the dot that keeps two slashes apart is no part of the path. -/
theorem isPrefix_of_no_authority {confines : Prefix} (directory : confines.IsDirectory)
    {joined : Url} (kept : confines.url.KeepsPlace joined)
    (noAuthority : confines.url.authority = none) (alsoNone : joined.authority = none)
    (within : confines.url.writeAuthority ++ confines.url.path.write <+:
      joined.writeAuthority ++ (joined.path.write ++ joined.tail)) :
    confines.url.path.write <+: joined.path.write ++ joined.tail := by
  obtain ⟨front, slash⟩ := directory.exists_write_path
  simp only [Url.writeAuthority, noAuthority, alsoNone, List.isPrefixOf_iff_prefix] at within
  by_cases doubled : ['/', '/'] <+: confines.url.path.write <;>
    by_cases alsoDoubled : ['/', '/'] <+: joined.path.write <;>
    simp only [doubled, alsoDoubled, if_true, if_false] at within
  · exact (List.prefix_append_right_inj _).mp within
  · -- the text of the joined path would start with the dot of the prefix
    obtain ⟨rest, equal⟩ := doubled
    have dotted : ['/', '.', '/'] <+: joined.path.write ++ joined.tail :=
      List.IsPrefix.trans ⟨'/' :: rest, by simp [← equal]⟩ within
    exact absurd (Url.isPrefix_path_of_isPrefix joined _ (by simp [Url.endsPath]) dotted)
      (Url.not_dot_isPrefix_path kept.read kept.hasRoot)
  · obtain ⟨rest, equal⟩ := alsoDoubled
    rw [← equal] at within ⊢
    rw [directory.isPrefix_of_dot _ within]
    exact ⟨'/' :: rest ++ joined.tail, rfl⟩
  · exact within

/-- A URL that keeps the place of the prefix and starts with its text stays below it. -/
theorem confines_of_isPrefix_write {confines : Prefix} (directory : confines.IsDirectory)
    {joined : Url} (kept : confines.url.KeepsPlace joined)
    (within : confines.url.write <+: joined.write) : confines.Confines joined := by
  rw [Url.write_eq, Url.write_eq, kept.scheme, directory.tail_eq_nil, List.append_nil,
    List.prefix_append_right_inj, List.cons_prefix_cons] at within
  have plain := Url.not_endsPath_of_mem_write directory.read directory.hasRoot
  have finish (authority : joined.authority = confines.url.authority)
      (below : confines.url.path.write <+: joined.path.write ++ joined.tail) :
      confines.Confines joined :=
    ⟨kept.scheme, authority, Url.isPrefix_path_of_isPrefix joined _ plain below⟩
  obtain authority | ⟨isFile, isLocal⟩ := kept.authority
  · cases present : confines.url.authority with
    | none =>
      exact finish authority
        (isPrefix_of_no_authority directory kept present (authority.trans present) within.2)
    | some parts =>
      simp only [Url.writeAuthority, authority, present] at within
      exact finish authority ((List.prefix_append_right_inj _).mp within.2)
  · obtain ⟨host, present, stays, some⟩ := directory.read.file isFile
    simp only [Url.writeAuthority, isLocal, present, Url.localFile] at within
    have behindSlashes :
        host.write ++ confines.url.path.write <+: joined.path.write ++ joined.tail := by
      simpa [Authority.write, Authority.writeUser, Authority.writePort, Host.write] using within.2
    have onMachine := host_eq_empty_of_isPrefix joined kept.hasRoot _ host stays some behindSlashes
    subst onMachine
    exact finish (isLocal.trans present.symm) behindSlashes

/-- A URL below a prefix with an authority starts with its text. -/
theorem isPrefix_write_of_confines {confines : Prefix} (directory : confines.IsDirectory)
    (hasAuthority : confines.url.authority.isSome) {joined : Url}
    (below : confines.Confines joined) :
    confines.url.write <+: joined.write := by
  obtain ⟨parts, present⟩ := Option.isSome_iff_exists.mp hasAuthority
  rw [Url.write_eq, Url.write_eq, below.scheme, directory.tail_eq_nil, List.append_nil,
    List.prefix_append_right_inj, List.cons_prefix_cons]
  simp only [Url.writeAuthority, below.authority, present]
  exact ⟨trivial, (List.prefix_append_right_inj _).mpr (below.path.trans (List.prefix_append _ _))⟩

/-- Every path that is not refused leads below the prefix. -/
theorem confines_of_resolve {confines : Prefix} (directory : confines.IsDirectory) (path : String)
    (url : Url) (resolved : confines.resolve path = .ok url) : confines.Confines url := by
  cases classified : classify path.toList with
  | foreign => simp [resolve, classified] at resolved
  | rooted => simp [resolve, classified] at resolved
  | relative =>
    obtain ⟨joined, isJoined, kept⟩ := Url.exists_join_of_relative directory.read directory.hasRoot
      path (kind_read_of_classify_relative path classified)
    rw [resolve_of_relative path joined classified isJoined] at resolved
    split at resolved
    case isTrue within =>
      rw [← Except.ok.inj resolved]
      exact confines_of_isPrefix_write directory kept (List.isPrefixOf_iff_prefix.mp within)
    case isFalse => cases resolved

/-- A refusal carries the path that it refuses. -/
theorem path_of_resolve {confines : Prefix} (path : String) (cause : Violation)
    (refused : confines.resolve path = .error cause) : cause.path = path := by
  revert refused
  fun_cases resolve confines path <;> rintro ⟨⟩ <;> rfl

/-- Pairs behind the query leave everything before the query as it is. -/
theorem Confines.appendPairs {confines : Prefix} {url : Url} (below : confines.Confines url)
    (pairs : List (String × String)) : confines.Confines (url.appendPairs pairs) where
  scheme := below.scheme
  authority := below.authority
  path := below.path

end Prefix

/-- What a request is turned into stays below the prefix, with its own pairs too. -/
theorem Requestor.confines_of_prepare {requestor : Requestor}
    (directory : requestor.confines.IsDirectory) (request : Request) (outbound : Outbound)
    (prepared : requestor.prepare request = .ok outbound) :
    requestor.confines.Confines outbound.url := by
  obtain ⟨url, resolved, rfl⟩ := exists_of_prepare_eq_ok requestor request outbound prepared
  have below := Prefix.confines_of_resolve directory request.path url resolved
  dsimp only
  split
  · exact below
  · exact below.appendPairs _

/-- Whatever an add-on does, each request that the transport is given stays below the prefix, whose
path ends in a slash.  A send whose path is refused comes back with the path unchanged, and the
transport is not called. -/
theorem Session.run_confined {α : Type} (field raw : String) (confines : Prefix)
    (parsed : Prefix.parse field raw = .ok confines) (credentials : Credentials) (limit : Nat)
    (steps : List (Step α)) :
    let reached := ((Session.start ⟨confines, credentials, limit⟩).run steps).2
    (∃ front, confines.url.path.write = front ++ ['/']) ∧
      (∀ outbound ∈ reached.sent, confines.Confines outbound.url) ∧
      ∀ request cause, confines.resolve request.path = .error cause →
        cause.path = request.path ∧
          ∀ (transport : Outbound → Answer) (disposal : Disposal α),
            (reached.step (.send request true transport disposal)).reply =
                .failed (.containment cause) ∧
              ∀ polled,
                let after := (reached.step (.send request polled transport disposal)).session
                after.sent = reached.sent ∧ after.exchanges = reached.exchanges := by
  intro reached
  have directory := Prefix.isDirectory_of_parse field raw confines parsed
  refine ⟨directory.exists_write_path, fun outbound isSent => ?_, fun request cause refused => ?_⟩
  · obtain before | ⟨request, prepared⟩ := Session.mem_sent_run _ steps outbound isSent
    · cases before
    · exact Requestor.confines_of_prepare directory request outbound prepared
  · have sameRequestor : reached.requestor = ⟨confines, credentials, limit⟩ :=
      Session.requestor_run _ steps
    refine ⟨Prefix.path_of_resolve request.path cause refused, fun transport disposal => ?_⟩
    exact reached.step_of_refused request cause (by rw [sameRequestor]; exact refused) transport
      disposal

/-- One request goes out below the prefix.  One that climbs out of it comes back. -/
theorem Session.run_confined_climbing :
    ∃ confines, Prefix.parse "prefix" "https://[::1]/api/v2" = .ok confines ∧
      let climbing := Request.plain .get "users/../../keys"
      let attempt : Step Unit := .send climbing true (fun _ => .pending) .release
      let visit : Step Unit := .send (.plain .get "users?page=1") true (fun _ => .pending) .release
      let reached := ((Session.start ⟨confines, .absent, 8⟩).run [attempt, visit]).2
      reached.sent.map (·.url.text) = ["https://[::1]/api/v2/users?page=1"] ∧
        (∀ outbound ∈ reached.sent, confines.Confines outbound.url) ∧
        (reached.step attempt).reply = .failed (.containment (.escapesPrefix climbing.path)) := by
  refine ⟨_, rfl, rfl, ?_, ?_⟩
  · exact (Session.run_confined "prefix" "https://[::1]/api/v2" _ rfl _ _ _).2.1
  · exact (((Session.run_confined "prefix" "https://[::1]/api/v2" _ rfl _ _ _).2.2 _ _ rfl).2
      _ _).1

end ConfinedHttp
