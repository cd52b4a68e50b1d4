import ConfinedHttp.Proofs.Url.PathRereading

namespace ConfinedHttp

/-- A character of a scheme stays one in small letters, and folding it once more does nothing. -/
theorem isSchemeCharacter_toLower (character : Char) (inScheme : isSchemeCharacter character = true) :
    isSchemeCharacter character.toLower = true ∧ character.toLower.toLower = character.toLower ∧
      ' ' < character.toLower ∧ (character.isAlpha = true → character.toLower.isAlpha = true) := by
  have ascii : character.toNat < 128 := by
    by_contra wide
    simp only [isSchemeCharacter, Bool.or_eq_true, beq_iff_eq] at inScheme
    obtain ((permitted | rfl) | rfl) | rfl := inScheme
    · exact wide (Ascii.toNat_lt_of_isAlphanum character permitted)
    all_goals exact wide (by decide)
  revert inScheme
  refine Ascii.forall_of_forall_code ?_ character ascii
  decide +kernel

/-- A scheme in normal form is read from its text, whatever stands behind the colon. -/
theorem readScheme_write (text behind : List Char) (scheme : String)
    (read : readScheme? text = some (scheme, behind)) :
    IsVisible scheme.toList ∧
      ∀ rest, readScheme? (scheme.toList ++ ':' :: rest) = some (scheme, rest) := by
  rw [readScheme?.eq_def] at read
  split at read
  case h_1 => cases read
  case h_2 first others =>
    split at read
    case isFalse => cases read
    case isTrue letter =>
      split at read
      case h_2 => cases read
      case h_1 =>
        obtain ⟨rfl, -⟩ := Prod.mk.inj (Option.some.inj read)
        have opens : isSchemeCharacter first = true := by
          simp [isSchemeCharacter, Char.isAlphanum, letter]
        have each : ∀ character ∈ (first :: others).takeWhile isSchemeCharacter,
            isSchemeCharacter character = true :=
          fun character inside => List.mem_takeWhile_imp inside
        rw [List.takeWhile_cons_of_pos opens] at each ⊢
        obtain ⟨firstKept, later⟩ := List.forall_mem_cons.mp each
        have lower (character : Char) (inside : character ∈
            (first :: others.takeWhile isSchemeCharacter).map Char.toLower) :
            isSchemeCharacter character = true ∧ character.toLower = character ∧
              ' ' < character := by
          obtain ⟨source, within, rfl⟩ := List.mem_map.mp inside
          obtain ⟨kept, same, visible, -⟩ := isSchemeCharacter_toLower source (each source within)
          exact ⟨kept, same, visible⟩
        rw [String.toList_ofList]
        refine ⟨fun character inside => (lower character inside).2.2, fun rest => ?_⟩
        obtain ⟨taken, dropped⟩ := takeWhile_dropWhile_append isSchemeCharacter
          ((first :: others.takeWhile isSchemeCharacter).map Char.toLower) (':' :: rest)
          (fun character inside => (lower character inside).1) (by rintro next ⟨⟩; decide)
        have same : ((first :: others.takeWhile isSchemeCharacter).map Char.toLower).map
            Char.toLower = (first :: others.takeWhile isSchemeCharacter).map Char.toLower := by
          conv_rhs => rw [← List.map_id ((first :: _).map _)]
          exact List.map_congr_left fun character inside => (lower character inside).2.1
        have smallLetter := (isSchemeCharacter_toLower first firstKept).2.2.2 letter
        rw [List.map_cons, List.cons_append] at taken dropped ⊢
        rw [readScheme?, if_pos smallLetter, dropped, taken, ← List.map_cons, same]
        rfl

namespace Url

/-- Cleaning leaves a visible text as it is. -/
theorem clean_of_isVisible (text : List Char) (visible : IsVisible text) : clean text = text := by
  have keeps (kept : List Char) (each : ∀ character ∈ kept, ' ' < character) :
      kept.dropWhile (· ≤ ' ') = kept := by
    cases kept with
    | nil => rfl
    | cons first rest =>
      exact List.dropWhile_cons_of_neg (by simpa using each first (List.mem_cons_self ..))
  have trimmed : trimEnds (· ≤ ' ') text = text := by
    rw [trimEnds, keeps text visible,
      keeps text.reverse fun character inside => visible character (List.mem_reverse.mp inside),
      List.reverse_reverse]
  rw [clean, trimmed, List.filter_eq_self]
  intro character inside
  have above := visible character inside
  simp only [Bool.not_eq_true', Bool.or_eq_false_iff, beq_eq_false_iff_ne]
  refine ⟨⟨?_, ?_⟩, ?_⟩ <;> rintro rfl <;> exact absurd above (by decide)

/-- A URL can be read again when the labels of its host are short enough. -/
def hasShortLabels (url : Url) : Bool :=
  url.authority.all (·.hasShortLabels (SchemeKind.of url.scheme))

/-- What stands behind the scheme in the text of a URL. -/
def body (url : Url) : List Char := url.writeAuthority ++ (url.path.write ++ url.tail)

/-- A URL in normal form is read again from its own text, unless a label of its host is too long.
The path of a file was read from the root on. -/
structure IsNormal (scheme : String) (url : Url) : Prop where
  named : url.scheme = scheme
  filed : scheme = "file" → ∃ text, url.path = .rooted (Segments.read .file [] text)
  visible : IsVisible url.body
  again : readBehindScheme scheme url.body =
    if url.hasShortLabels then .ok url else .error .badDomain

theorem body_of_authority (url : Url) (authority : Authority)
    (isAuthority : url.authority = some authority) :
    url.body = '/' :: '/' :: (authority.write ++ (url.path.write ++ url.tail)) := by
  simp [body, writeAuthority, isAuthority]

theorem hasShortLabels_of_authority (url : Url) (authority : Authority)
    (isAuthority : url.authority = some authority) :
    url.hasShortLabels = authority.hasShortLabels (SchemeKind.of url.scheme) := by
  simp [hasShortLabels, isAuthority]

theorem isVisible_slashes {text : List Char} (visible : IsVisible text) :
    IsVisible ('/' :: '/' :: text) :=
  .cons (by decide) (.cons (by decide) visible)

/-- Slashes in front of a text that stays in the authority are skipped. -/
theorem dropWhile_slashes (port : UInt16) (text after : List Char) (some : text ≠ [])
    (stays : StaysInAuthority text) :
    ('/' :: '/' :: (text ++ after)).dropWhile (SchemeKind.web port).isSlash = text ++ after := by
  obtain ⟨first, rest, rfl⟩ := List.exists_cons_of_ne_nil some
  have noSlash : ¬ (SchemeKind.web port).isSlash first = true := by
    have stays := SchemeKind.endsAuthority_eq_false (.web port) first
      (stays first (List.mem_cons_self ..))
    simp only [SchemeKind.endsAuthority, Bool.or_eq_false_iff] at stays
    simp [stays.1.1]
  rw [List.dropWhile_cons_of_pos rfl, List.dropWhile_cons_of_pos rfl, List.cons_append,
    List.dropWhile_cons_of_neg noSlash]

/-- An authority, and what was read behind it, are read again. -/
theorem isNormal_behindAuthority (scheme : String) (notFile : SchemeKind.of scheme ≠ .file)
    (authority : Authority) (isRead : authority.IsRead (SchemeKind.of scheme)) (behind : List Char) :
    (withPathBehindAuthority (SchemeKind.of scheme)
      ⟨scheme, some authority, .rooted [], none, none⟩ behind).IsNormal scheme := by
  obtain ⟨ends, visible, again, isScheme, isAuthority⟩ :=
    withPathBehindAuthority_write (SchemeKind.of scheme) scheme (some authority) behind
  obtain ⟨visibleAuthority, stays⟩ := isRead.write_spec
  have body := body_of_authority _ authority isAuthority
  refine ⟨isScheme, fun isFile => absurd ((SchemeKind.of_eq_file scheme).mpr isFile) notFile,
    body ▸ isVisible_slashes (visibleAuthority.append visible), ?_⟩
  have reread := readAuthority_write scheme authority isRead _ ends
  rw [again] at reread
  rw [hasShortLabels_of_authority _ authority isAuthority, isScheme, ← reread, body,
    readBehindScheme]
  split
  case h_1 port isWeb =>
    -- the slashes end where the authority starts, because it is not empty and holds none
    have some : authority.write ≠ [] := by
      obtain ⟨source, isHost⟩ := isRead.host
      have special : (SchemeKind.of scheme).isSpecial = true := by rw [isWeb]; rfl
      rw [if_pos special] at isHost
      have filled := Host.write_ne_nil_of_readSpecial source _ isHost
      simp [Authority.write, filled]
    rw [dropWhile_slashes port authority.write _ some stays]
  case h_2 isFile => exact absurd isFile notFile
  case h_3 => rfl

/-- A URL with nothing but a scheme. -/
def bareOf (scheme : String) : Url := ⟨scheme, none, .rooted [], none, none⟩

/-- One slash behind a general scheme opens a path. -/
theorem readGeneral_slash (scheme : String) (rest : List Char) (single : rest.head? ≠ some '/') :
    readGeneral scheme ('/' :: rest) = .ok (withPath .general (bareOf scheme) [] rest) := by
  cases rest with
  | nil => rfl
  | cons next others =>
    rw [readGeneral]
    · rfl
    · rintro behind equal
      exact single (by rw [equal]; rfl)

/-- A dot segment in front of a path is skipped. -/
theorem withPath_dot (url : Url) (rest : List Char) :
    withPath .general url [] ('.' :: '/' :: rest) = withPath .general url [] rest := by
  have dot : (!endsPath '.') = true := rfl
  have slash : (!endsPath '/') = true := rfl
  simp only [withPath, List.takeWhile_cons_of_pos (p := (!endsPath ·)) dot,
    List.takeWhile_cons_of_pos (p := (!endsPath ·)) slash,
    List.dropWhile_cons_of_pos (p := (!endsPath ·)) dot,
    List.dropWhile_cons_of_pos (p := (!endsPath ·)) slash, Segments.read_dot]

/-- A path with a root that stands behind no authority is read again. -/
theorem isNormal_of_general (scheme : String) (general : SchemeKind.of scheme = .general)
    (text : List Char) : (withPath .general (bareOf scheme) [] text).IsNormal scheme := by
  obtain ⟨rest, written, again, slashes⟩ := withPath_write .general (bareOf scheme) text
  have visible := isVisible_withPath .general (bareOf scheme) text
  rw [written] at visible
  have body : (withPath .general (bareOf scheme) [] text).body =
      (if ['/', '/'].isPrefixOf (withPath .general (bareOf scheme) [] text).path.write then ['/', '.']
        else []) ++ '/' :: rest := by
    rw [body, written]
    rfl
  have notFile : scheme ≠ "file" := fun isFile => by
    simp [(SchemeKind.of_eq_file scheme).mpr isFile] at general
  refine ⟨rfl, fun isFile => absurd isFile notFile, ?_, ?_⟩
  · rw [body]
    refine .append ?_ visible
    split
    · exact .cons (by decide) (.cons (by decide) (by simp [IsVisible]))
    · simp [IsVisible]
  · rw [readBehindScheme, general, body]
    change readGeneral scheme _ = .ok _
    split
    case isTrue =>
      -- the dot segment that keeps the slashes apart is skipped again
      change readGeneral scheme ('/' :: '.' :: '/' :: rest) = _
      rw [readGeneral_slash _ _ (by simp), withPath_dot, again]
    case isFalse single =>
      rw [List.nil_append, readGeneral_slash _ _ fun slash => single (slashes slash), again]

/-- A path of this machine is read again. -/
theorem isNormal_localPath (text : List Char) : (withPath .file localFile [] text).IsNormal "file" := by
  obtain ⟨rest, written, again, -⟩ := withPath_write .file localFile text
  have visible := isVisible_withPath .file localFile text
  have body : (withPath .file localFile [] text).body = '/' :: '/' :: '/' :: rest := by
    rw [body_of_authority _ ⟨"", none, .empty, none⟩ rfl, written]
    rfl
  rw [written] at visible
  refine ⟨rfl, fun _ => ⟨_, rfl⟩, body ▸ isVisible_slashes visible, ?_⟩
  rw [body]
  change readFileHost ('/' :: rest) = .ok _
  rw [readFileHost]
  change Except.ok (withPath .file localFile [] rest) = _
  rw [again]

/-- A file path behind an authority always has segments. -/
theorem withPathBehindAuthority_file (url : Url) (text : List Char) :
    ∃ rest, withPathBehindAuthority .file url text = withPath .file url [] rest := by
  rw [withPathBehindAuthority.eq_def]
  split
  · exact ⟨[], rfl⟩
  · split
    · exact ⟨_, rfl⟩
    · exact ⟨_, rfl⟩

/-- A path of another machine is read again if it holds no drive letter. -/
theorem isNormal_remotePath (source : List Char) (host : Host)
    (read : Host.readSpecial source = .ok host) (remote : host ≠ .name "localhost")
    (text : List Char)
    (noDrive : (withPath .file (onHost host) [] text).withoutHostOfDrive =
      withPath .file (onHost host) [] text) :
    (withPath .file (onHost host) [] text).IsNormal "file" := by
  obtain ⟨rest, written, again, -⟩ := withPath_write .file (onHost host) text
  have visible := isVisible_withPath .file (onHost host) text
  have whole := Host.isWhole_of_readSpecial source host read
  have isAuthority : (withPath .file (onHost host) [] text).authority =
      some ⟨"", none, host, none⟩ := by
    change some (⟨"", none, if host = .name "localhost" then .empty else host, none⟩ : Authority) = _
    rw [if_neg remote]
  have isHost : Authority.write ⟨"", none, host, none⟩ = host.write := by
    simp [Authority.write, Authority.writeUser, Authority.writePort]
  have body := body_of_authority _ _ isAuthority
  rw [isHost, written] at body
  rw [written] at visible
  refine ⟨rfl, fun _ => ⟨_, rfl⟩, body ▸ isVisible_slashes (whole.visible.append visible), ?_⟩
  obtain ⟨taken, dropped⟩ := takeWhile_dropWhile_append (!SchemeKind.file.endsAuthority ·) host.write
    ('/' :: rest) (fun character inside => by rw [whole.stays character inside]; rfl)
    (by rintro next ⟨⟩; decide)
  have some := Host.write_ne_nil_of_readSpecial source host read
  rw [hasShortLabels_of_authority _ _ isAuthority, body]
  change readFileHost (host.write ++ '/' :: rest) = if host.hasShortLabels then _ else _
  simp only [readFileHost, taken, dropped, whole.noDrive, List.isEmpty_eq_false_iff.mpr some,
    Host.readSpecial_write source host read, Bool.false_eq_true, if_false]
  cases host.hasShortLabels with
  | false => rfl
  | true =>
    change Except.ok ((withPath .file (onHost host) [] rest).withoutHostOfDrive) = .ok _
    rw [again, noDrive]

/-- The ways in which reading puts a URL with an authority or a root together. -/
inductive IsBuilt : String → Url → Prop
  | behindAuthority (scheme : String) (notFile : SchemeKind.of scheme ≠ .file)
    (authority : Authority) (isRead : authority.IsRead (SchemeKind.of scheme))
    (text : List Char) :
    IsBuilt scheme (withPathBehindAuthority (SchemeKind.of scheme)
      ⟨scheme, some authority, .rooted [], none, none⟩ text)
  | withoutAuthority (scheme : String) (general : SchemeKind.of scheme = .general)
    (text : List Char) : IsBuilt scheme (withPath .general (bareOf scheme) [] text)
  | onThisMachine (text : List Char) : IsBuilt "file" (withPath .file localFile [] text)
  | onOtherMachine (source : List Char) (host : Host) (read : Host.readSpecial source = .ok host)
    (remote : host ≠ .name "localhost") (text : List Char)
    (noDrive : ¬ (withPath .file (onHost host) [] text).path.segments.any
      fun segment => Segments.isDrive segment.toList) :
    IsBuilt "file" (withPath .file (onHost host) [] text)

theorem IsBuilt.isNormal {scheme : String} {url : Url} (built : url.IsBuilt scheme) :
    url.IsNormal scheme := by
  cases built with
  | behindAuthority _ notFile authority isRead text =>
    exact isNormal_behindAuthority scheme notFile authority isRead text
  | withoutAuthority _ general text => exact isNormal_of_general scheme general text
  | onThisMachine text => exact isNormal_localPath text
  | onOtherMachine source host read remote text noDrive =>
    exact isNormal_remotePath source host read remote text (by rw [withoutHostOfDrive, if_neg noDrive])

theorem isBuilt_of_readAuthority (scheme : String) (notFile : SchemeKind.of scheme ≠ .file)
    (text : List Char) (url : Url) (read : readAuthority scheme text = .ok url) :
    url.IsBuilt scheme := by
  obtain ⟨authority, behind, isRead, isUrl⟩ := readAuthority_eq_ok scheme text url read
  rw [isUrl]
  exact .behindAuthority scheme notFile authority isRead behind

theorem isBuilt_of_readGeneral (scheme : String) (general : SchemeKind.of scheme = .general)
    (text : List Char) (url : Url) (read : readGeneral scheme text = .ok url)
    (hasRoot : url.isRootless = false) : url.IsBuilt scheme := by
  rw [readGeneral.eq_def] at read
  split at read
  · exact isBuilt_of_readAuthority scheme (by simp [general]) _ url read
  · rw [← Except.ok.inj read]
    exact .withoutAuthority scheme general _
  · rw [← Except.ok.inj read] at hasRoot
    cases hasRoot

theorem isBuilt_of_readFileHost (text : List Char) (url : Url) (read : readFileHost text = .ok url) :
    url.IsBuilt "file" := by
  rw [readFileHost] at read
  split at read
  · rw [← Except.ok.inj read]
    exact .onThisMachine text
  split at read
  · obtain ⟨rest, isPath⟩ := withPathBehindAuthority_file localFile
      (text.dropWhile (!SchemeKind.file.endsAuthority ·))
    rw [← Except.ok.inj read, isPath]
    exact .onThisMachine rest
  · obtain ⟨host, isHost, read⟩ := exists_of_bind_eq_ok read
    obtain ⟨rest, isPath⟩ := withPathBehindAuthority_file (onHost host)
      (text.dropWhile (!SchemeKind.file.endsAuthority ·))
    rw [← Except.ok.inj read, isPath]
    by_cases here : host = .name "localhost"
    · have isLocal : onHost host = localFile := by
        rw [here]
        rfl
      have kept : (withPath .file localFile [] rest).withoutHostOfDrive =
          withPath .file localFile [] rest := by
        rw [withoutHostOfDrive]
        split <;> rfl
      rw [isLocal, kept]
      exact .onThisMachine rest
    · by_cases drive : (withPath .file (onHost host) [] rest).path.segments.any
          fun segment => Segments.isDrive segment.toList
      · have moved : (withPath .file (onHost host) [] rest).withoutHostOfDrive =
            withPath .file localFile [] rest := by
          rw [withoutHostOfDrive, if_pos drive]
          rfl
        rw [moved]
        exact .onThisMachine rest
      · have kept : (withPath .file (onHost host) [] rest).withoutHostOfDrive =
            withPath .file (onHost host) [] rest := by
          rw [withoutHostOfDrive, if_neg drive]
        rw [kept]
        exact .onOtherMachine _ host isHost here rest drive

theorem isBuilt_of_readFile (text : List Char) (url : Url) (read : readFile text = .ok url) :
    url.IsBuilt "file" := by
  rw [readFile.eq_def] at read
  split at read
  · split at read
    · split at read
      · exact isBuilt_of_readFileHost _ url read
      · rw [← Except.ok.inj read]
        exact .onThisMachine _
    · rw [← Except.ok.inj read]
      exact .onThisMachine _
  · rw [← Except.ok.inj read]
    exact .onThisMachine _
  · rw [← Except.ok.inj read]
    exact .onThisMachine _

theorem isBuilt_of_readBehindScheme (scheme : String) (text : List Char) (url : Url)
    (read : readBehindScheme scheme text = .ok url) (hasRoot : url.isRootless = false) :
    url.IsBuilt scheme := by
  rw [readBehindScheme] at read
  split at read
  case h_1 port isWeb => exact isBuilt_of_readAuthority scheme (by simp [isWeb]) _ url read
  case h_2 isFile =>
    rw [(SchemeKind.of_eq_file scheme).mp isFile]
    exact isBuilt_of_readFile text url read
  case h_3 general => exact isBuilt_of_readGeneral scheme general text url read hasRoot

/-- A scheme that is read again whatever stands behind the colon. -/
def IsScheme (scheme : String) : Prop :=
  IsVisible scheme.toList ∧
    ∀ rest, readScheme? (scheme.toList ++ ':' :: rest) = some (scheme, rest)

/-- Every URL with an authority or a root that was read from a text is put together in one of these
ways. -/
theorem isBuilt_of_parse (raw : String) (url : Url) (parsed : parse raw = .ok url)
    (hasRoot : url.isRootless = false) : url.IsBuilt url.scheme ∧ IsScheme url.scheme := by
  rw [parse] at parsed
  split at parsed
  case h_2 => cases parsed
  case h_1 scheme behind isScheme =>
    have built := isBuilt_of_readBehindScheme scheme behind url parsed hasRoot
    have named := built.isNormal.named
    subst named
    exact ⟨built, readScheme_write _ behind _ isScheme⟩

/-- A URL in normal form is read again from its own text, unless a label of its host is too long. -/
theorem IsNormal.parse_text {url : Url} (normal : url.IsNormal url.scheme)
    (isScheme : IsScheme url.scheme) :
    parse url.text = if url.hasShortLabels then .ok url else .error .badDomain := by
  obtain ⟨visible, scheme⟩ := isScheme
  have written : url.write = url.scheme.toList ++ ':' :: url.body := write_eq url
  have clean := clean_of_isVisible url.write
    (written ▸ visible.append (.cons (by decide) normal.visible))
  rw [parse, text, String.toList_ofList, clean, written, scheme]
  exact normal.again

/-- A URL with an authority or a root is read again from its own text, unless a label of its host is
too long. -/
theorem parse_text_of_parse (raw : String) (url : Url) (parsed : parse raw = .ok url)
    (hasRoot : url.isRootless = false) :
    parse url.text = if url.hasShortLabels then .ok url else .error .badDomain := by
  obtain ⟨built, isScheme⟩ := isBuilt_of_parse raw url parsed hasRoot
  exact built.isNormal.parse_text isScheme

/-- A text that is read as one host is the host of a URL when it stands behind two slashes. -/
theorem parse_https (text after : List Char) (whole : Host.IsWhole text) (some : text ≠ [])
    (host : Host) (read : Host.readSpecial text = .ok host) (visible : IsVisible after)
    (ends : EndsAuthority (.web 443) after) :
    parse (String.ofList ("https://".toList ++ (text ++ after))) =
      .ok (withPathBehindAuthority (.web 443)
        ⟨"https", .some ⟨"", none, host, none⟩, .rooted [], none, none⟩ after) := by
  have opened : IsVisible "https://".toList := by
    have each : "https://".toList.all (' ' < ·) = true := by decide
    exact fun character inside => of_decide_eq_true (List.all_eq_true.mp each character inside)
  obtain ⟨-, scheme⟩ := readScheme_write "https:".toList [] "https" rfl
  have split : "https://".toList ++ (text ++ after) =
      "https".toList ++ ':' :: '/' :: '/' :: (text ++ after) := rfl
  rw [parse, String.toList_ofList,
    clean_of_isVisible _ (opened.append (whole.visible.append visible)), split, scheme]
  change readAuthority "https" (('/' :: '/' :: (text ++ after)).dropWhile
    (SchemeKind.web 443).isSlash) = _
  rw [dropWhile_slashes 443 text after some whole.stays]
  exact readAuthority_of_isWhole "https" rfl text whole some host read after ends

end Url

end ConfinedHttp
