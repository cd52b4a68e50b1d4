import ConfinedHttp.Proofs.Url.HostRereading
import ConfinedHttp.Proofs.Url.UrlReading

namespace ConfinedHttp

theorem Percent.isEscapeSet_inUserinfo : IsEscapeSet inUserinfo where
  control byte control := by simp [inUserinfo, inPath, inFragment, control]
  percent := by decide
  digit := by decide

/-- What is escaped in a user name leaves no mark of a URL. -/
theorem Host.isOrdinary_of_isEscaped (text : List Char)
    (escaped : Percent.IsEscaped Percent.inUserinfo text) :
    ∀ character ∈ text, Host.IsOrdinary character := by
  intro character inside
  obtain ⟨ascii, kept⟩ := escaped character inside
  revert kept
  refine Ascii.forall_of_forall_code ?_ character ascii
  decide +kernel

theorem SchemeKind.colon_stays (kind : SchemeKind) : ¬ kind.endsAuthority ':' = true := by
  rw [kind.endsAuthority_eq_false ':' (by decide)]
  decide

namespace Authority

/-- Reading makes sure that an authority is in normal form: its user is escaped, a password is not
empty, the port is not the default one, and nothing stands beside an empty host. -/
structure IsRead (kind : SchemeKind) (authority : Authority) : Prop where
  username : Percent.IsEscaped Percent.inUserinfo authority.username.toList
  password : ∀ password, authority.password = some password →
    password ≠ "" ∧ Percent.IsEscaped Percent.inUserinfo password.toList
  host : ∃ text, (if kind.isSpecial then Host.readSpecial text else Host.readGeneral text) =
    .ok authority.host
  port : ∀ port, authority.port = some port → kind ≠ .web port
  alone : authority.host = .empty →
    authority.username = "" ∧ authority.password = none ∧ authority.port = none

/-- An authority with a special scheme can be read again when the labels of its host are short
enough. -/
def hasShortLabels (kind : SchemeKind) (authority : Authority) : Bool :=
  !kind.isSpecial || authority.host.hasShortLabels

variable {kind : SchemeKind} {authority : Authority}

theorem IsRead.isWhole (read : authority.IsRead kind) : Host.IsWhole authority.host.write := by
  obtain ⟨text, isHost⟩ := read.host
  split at isHost
  · exact Host.isWhole_of_readSpecial text _ isHost
  · exact Host.isWhole_of_readGeneral text _ isHost

/-- The user name and the password are missing in the text, or they end in an at sign and are split
as they were. -/
theorem IsRead.writeUser_cases (read : authority.IsRead kind) :
    (authority.writeUser = [] ∧ authority.username = "" ∧ authority.password = none) ∨
      ∃ user, user ≠ [] ∧ authority.writeUser = user ++ ['@'] ∧
        (∀ character ∈ user, Host.IsOrdinary character ∨ character = ':') ∧
        Url.splitUser user = (authority.username, authority.password) := by
  have name := Host.isOrdinary_of_isEscaped _ read.username
  have noColon : ∀ character ∈ authority.username.toList, (character != ':') = true := by
    intro character inside
    have ordinary := (name character inside).2.2
    rw [bne_iff_ne]
    rintro rfl
    simp at ordinary
  have sameName := Percent.encode_of_isEscaped _ read.username
  rw [writeUser]
  cases secret : authority.password with
  | none =>
    by_cases bare : authority.username = ""
    · exact .inl ⟨by simp [bare], bare, rfl⟩
    · refine .inr ⟨authority.username.toList, by simpa using bare, by simp [bare],
        fun character inside => .inl (name character inside), ?_⟩
      obtain ⟨taken, dropped⟩ := takeWhile_dropWhile_append (· != ':') authority.username.toList []
        noColon (by simp)
      rw [List.append_nil] at taken dropped
      simp [Url.splitUser, taken, dropped, Percent.encodeText, sameName]
  | some password =>
    obtain ⟨some, escaped⟩ := read.password password secret
    have samePassword := Percent.encode_of_isEscaped _ escaped
    refine .inr ⟨authority.username.toList ++ ':' :: password.toList, by simp, by simp, ?_, ?_⟩
    · intro character inside
      simp only [List.mem_append, List.mem_cons] at inside
      obtain inName | mark | inPassword := inside
      · exact .inl (name character inName)
      · exact .inr mark
      · exact .inl (Host.isOrdinary_of_isEscaped _ escaped character inPassword)
    · obtain ⟨taken, dropped⟩ := takeWhile_dropWhile_append (· != ':') authority.username.toList
        (':' :: password.toList) noColon (by simp)
      simp [Url.splitUser, taken, dropped, Percent.encodeText, sameName, samePassword, some]

theorem isOrdinary_of_mem_decimal (value : Nat) :
    ∀ character ∈ Ascii.decimal value, Host.IsOrdinary character := fun character inside =>
  Host.isOrdinary_of_isPlain character (Ipv4.isPlain_of_mem_decimal value character inside).1

/-- The port is missing in the text, or it is a colon and digits. -/
theorem isOrdinary_of_mem_writePort (character : Char) (inside : character ∈ authority.writePort) :
    Host.IsOrdinary character ∨ character = ':' := by
  rw [writePort] at inside
  split at inside
  · obtain mark | digit := List.mem_cons.mp inside
    · exact .inr mark
    · exact .inl (isOrdinary_of_mem_decimal _ character digit)
  · simp at inside

/-- A character of an authority does not end it and is no space. -/
theorem visible_stays_of_mem (character : Char)
    (ordinary : Host.IsOrdinary character ∨ character = ':') :
    ' ' < character ∧ SchemeKind.file.endsAuthority character = false ∧ character ≠ '@' := by
  obtain ordinary | rfl := ordinary
  · exact ⟨ordinary.1, ordinary.2.1, fun equal => ordinary.2.2 (by simp [equal])⟩
  · decide

/-- The host and the port hold no at sign, and nothing that ends the authority. -/
theorem IsRead.behindUser (read : authority.IsRead kind) :
    IsVisible (authority.host.write ++ authority.writePort) ∧
      StaysInAuthority (authority.host.write ++ authority.writePort) ∧
      '@' ∉ authority.host.write ++ authority.writePort := by
  have whole := read.isWhole
  have port (character : Char) (inside : character ∈ authority.writePort) :=
    visible_stays_of_mem character (isOrdinary_of_mem_writePort character inside)
  refine ⟨whole.visible.append fun character inside => (port character inside).1,
    whole.stays.append fun character inside => (port character inside).2.1, fun inside => ?_⟩
  obtain inHost | inPort := List.mem_append.mp inside
  · exact whole.noAt inHost
  · exact (port '@' inPort).2.2 rfl

theorem IsRead.write_spec (read : authority.IsRead kind) :
    IsVisible authority.write ∧ StaysInAuthority authority.write := by
  obtain ⟨visible, stays, -⟩ := read.behindUser
  rw [write, List.append_assoc]
  obtain ⟨none, -, -⟩ | ⟨user, -, written, each, -⟩ := read.writeUser_cases
  · rw [none]
    exact ⟨visible, stays⟩
  · have inUser (character : Char) (inside : character ∈ user) :=
      visible_stays_of_mem character (each character inside)
    have sign : IsVisible ['@'] ∧ StaysInAuthority ['@'] := by
      refine ⟨by simp [IsVisible], ?_⟩
      decide
    rw [written]
    exact ⟨.append (.append (fun character inside => (inUser character inside).1) sign.1) visible,
      .append (.append (fun character inside => (inUser character inside).2.1) sign.2) stays⟩

end Authority

namespace Url

/-- First the host is read, then a port without a host is refused. -/
theorem readHost_eq (kind : SchemeKind) (text : List Char) :
    readHost kind text =
      ((if kind.isSpecial then
          if (splitHost kind false text).1.isEmpty then .error .emptyHost
          else Host.readSpecial (splitHost kind false text).1
        else Host.readGeneral (splitHost kind false text).1) >>= fun host =>
        if host = .empty ∧ (splitHost kind false text).2.head? = some ':' then .error .emptyHost
        else .ok (host, (splitHost kind false text).2)) := by
  rw [readHost]
  rcases splitHost kind false text with ⟨written, after⟩
  cases kind.isSpecial with
  | true => cases written <;> rfl
  | false => rfl

/-- What stands behind an authority is nothing or ends it. -/
def EndsAuthority (kind : SchemeKind) (rest : List Char) : Prop :=
  ∀ next ∈ rest.head?, kind.endsAuthority next = true

/-- What ends the authority is no port. -/
theorem readPort_of_endsAuthority {kind : SchemeKind} {after : List Char}
    (ends : EndsAuthority kind after) : readPort kind after = .ok (none, after) := by
  rw [readPort.eq_def]
  split
  case h_1 rest => exact absurd (ends ':' rfl) kind.colon_stays
  case h_2 => rfl

section Rereading

variable {kind : SchemeKind} {authority : Authority} (read : authority.IsRead kind)
  {after : List Char} (ends : EndsAuthority kind after)

include read ends

theorem readUser_write :
    readUser kind (authority.write ++ after) =
      .ok ((authority.username, authority.password),
        authority.host.write ++ (authority.writePort ++ after)) := by
  obtain ⟨taken, dropped⟩ := takeWhile_dropWhile_append (!kind.endsAuthority ·) authority.write after
    (fun character inside => by
      rw [kind.endsAuthority_eq_false character (read.write_spec.2 character inside)]
      rfl)
    fun next inside => by simp [ends next inside]
  obtain ⟨-, -, noAt⟩ := read.behindUser
  have noAt : ∀ character ∈ (authority.host.write ++ authority.writePort).reverse,
      (character != '@') = true := by
    intro character inside
    rw [List.mem_reverse] at inside
    simp only [bne_iff_ne]
    rintro rfl
    exact noAt inside
  simp only [readUser, taken, dropped]
  obtain ⟨bare, username, password⟩ | ⟨user, some, written, -, split⟩ := read.writeUser_cases
  · have noSign : authority.write.contains '@' = false := by
      rw [Authority.write, bare, List.nil_append, List.contains_eq_any_beq, List.any_eq_false]
      intro character inside
      have different := noAt character (List.mem_reverse.mpr inside)
      rw [bne_iff_ne] at different
      exact fun equal => different (beq_iff_eq.mp equal).symm
    rw [noSign, username, password, Authority.write, bare]
    simp
  · have whole : authority.write = user ++ '@' :: (authority.host.write ++ authority.writePort) := by
      simp [Authority.write, written]
    have cut := takeWhile_dropWhile_append (· != '@')
      (authority.host.write ++ authority.writePort).reverse ('@' :: user.reverse) noAt (by simp)
    have behind : (authority.write.reverse.takeWhile (· != '@')).reverse =
        authority.host.write ++ authority.writePort := by
      have turned : authority.write.reverse =
          (authority.host.write ++ authority.writePort).reverse ++ '@' :: user.reverse := by
        simp [whole]
      rw [turned, cut.1, List.reverse_reverse]
    have front : authority.write.take
        (authority.write.length - (authority.host.write ++ authority.writePort).length - 1) =
        user := by
      rw [whole]
      apply List.take_left'
      simp only [List.length_append, List.length_cons]
      omega
    have sign : authority.write.contains '@' = true := by simp [whole]
    simp only [sign, behind, front, split]
    simp [some]

theorem readPort_write :
    readPort kind (authority.writePort ++ after) = .ok (authority.port, after) := by
  rw [Authority.writePort]
  cases port : authority.port with
  | none => rw [List.nil_append, readPort_of_endsAuthority ends]
  | some number =>
    have stops (next : Char) (inside : next ∈ after.head?) :
        next.isDigit = false ∧ (next == '/' || next == '\\' || endsPath next) = true := by
      have stops := ends next inside
      simp only [SchemeKind.endsAuthority, SchemeKind.isSlash, Bool.or_eq_true, Bool.and_eq_true,
        beq_iff_eq] at stops
      obtain ((rfl | ⟨rfl, -⟩) | rfl) | rfl := stops <;> decide
    obtain ⟨taken, dropped⟩ := takeWhile_dropWhile_append Char.isDigit
      (Ascii.decimal number.toNat) after (Ipv4.isDigit_of_mem_decimal _)
      fun next inside => (stops next inside).1
    have closed : (after.head?.all fun next => next == '/' || next == '\\' || endsPath next) =
        true := by
      rw [Option.all_eq_true]
      exact fun next inside => (stops next inside).2
    have digits : (Ascii.decimal number.toNat) ≠ [] := Nat.toDigits_ne_nil
    have value : Ascii.numberOf 10 (Ascii.decimal number.toNat) = number.toNat :=
      Ascii.numberOf_toDigits 10 (by decide) (by decide) number.toNat
    have notDefault := read.port number port
    have isPort : portOf kind (Ascii.decimal number.toNat) = .ok (some number) := by
      have small : number.toNat < UInt16.size := number.toNat_lt
      simp [portOf, value, digits, notDefault, small]
    simp only [List.cons_append, readPort, taken, dropped, closed, if_true, isPort]
    rfl

theorem readHost_write :
    readHost kind (authority.host.write ++ (authority.writePort ++ after)) =
      if authority.hasShortLabels kind then
        .ok (authority.host, authority.writePort ++ after)
      else .error .badDomain := by
  have closes : Host.EndsHost kind (authority.writePort ++ after) := by
    rw [Authority.writePort]
    split
    · exact fun next inside => .inl (by simpa using inside.symm)
    · exact fun next inside => .inr (ends next inside)
  have noPort : ¬ (authority.host = .empty ∧
      (authority.writePort ++ after).head? = some ':') := by
    rintro ⟨empty, colon⟩
    rw [Authority.writePort, (read.alone empty).2.2, List.nil_append] at colon
    exact absurd (ends ':' colon) kind.colon_stays
  obtain ⟨text, isHost⟩ := read.host
  rw [readHost_eq, read.isWhole.cut kind _ closes, Authority.hasShortLabels]
  cases special : kind.isSpecial with
  | true =>
    simp only [special, if_true] at isHost
    have some := Host.write_ne_nil_of_readSpecial text _ isHost
    have again := Host.readSpecial_write text _ isHost
    simp only [List.isEmpty_eq_false_iff.mpr some, again, if_true, Bool.not_true, Bool.false_or,
      Bool.false_eq_true, if_false]
    cases authority.host.hasShortLabels with
    | true => exact if_neg noPort
    | false => rfl
  | false =>
    simp only [special, Bool.false_eq_true, if_false] at isHost
    simp only [Host.readGeneral_write text _ isHost, Bool.false_eq_true, if_false, Bool.not_false,
      Bool.true_or, if_true]
    exact if_neg noPort

end Rereading

/-- The text of an authority is read as the authority, unless a label of its host is too long. -/
theorem readAuthority_write (scheme : String) (authority : Authority)
    (read : authority.IsRead (SchemeKind.of scheme)) (after : List Char)
    (ends : EndsAuthority (SchemeKind.of scheme) after) :
    readAuthority scheme (authority.write ++ after) =
      if authority.hasShortLabels (SchemeKind.of scheme) then
        .ok (withPathBehindAuthority (SchemeKind.of scheme)
          ⟨scheme, some authority, .rooted [], none, none⟩ after)
      else .error .badDomain := by
  have alone : ¬ (authority.host = .empty ∧
      (authority.username ≠ "" ∨ authority.password ≠ none)) := by
    rintro ⟨empty, beside⟩
    obtain ⟨username, password, -⟩ := read.alone empty
    simp [username, password] at beside
  simp only [readAuthority, readUser_write read ends]
  change (readHost (SchemeKind.of scheme) _ >>= _) = _
  rw [readHost_write read ends]
  cases authority.hasShortLabels (SchemeKind.of scheme) with
  | false => rfl
  | true =>
    change (readPort (SchemeKind.of scheme) _ >>= _) = _
    rw [readPort_write read ends]
    exact if_neg alone

/-- A text that is read as one host, and nothing else of an authority, makes up the authority. -/
theorem readAuthority_of_isWhole (scheme : String)
    (special : (SchemeKind.of scheme).isSpecial = true) (text : List Char)
    (whole : Host.IsWhole text) (some : text ≠ []) (host : Host)
    (read : Host.readSpecial text = .ok host) (after : List Char)
    (ends : EndsAuthority (SchemeKind.of scheme) after) :
    readAuthority scheme (text ++ after) =
      .ok (withPathBehindAuthority (SchemeKind.of scheme)
        ⟨scheme, .some ⟨"", none, host, none⟩, .rooted [], none, none⟩ after) := by
  obtain ⟨taken, -⟩ := takeWhile_dropWhile_append (!(SchemeKind.of scheme).endsAuthority ·) text after
    (fun character inside => by
      rw [SchemeKind.endsAuthority_eq_false _ character (whole.stays character inside)]
      rfl)
    fun next inside => by simp [ends next inside]
  have noUser : readUser (SchemeKind.of scheme) (text ++ after) = .ok (("", none), text ++ after) := by
    simp [readUser, taken, whole.noAt]
  have filled : host ≠ .empty := by
    rintro rfl
    exact Host.write_ne_nil_of_readSpecial text _ read rfl
  have isHost : readHost (SchemeKind.of scheme) (text ++ after) = .ok (host, after) := by
    rw [readHost_eq, whole.cut _ after fun next inside => .inr (ends next inside)]
    simp only [special, if_true, List.isEmpty_eq_false_iff.mpr some, read]
    exact if_neg fun empty => filled empty.1
  simp only [readAuthority, noUser]
  change (readHost (SchemeKind.of scheme) _ >>= _) = _
  rw [isHost]
  change (readPort (SchemeKind.of scheme) _ >>= _) = _
  rw [readPort_of_endsAuthority ends]
  exact if_neg fun empty => filled empty.1

theorem isEscaped_of_splitUser (user : List Char) :
    Percent.IsEscaped Percent.inUserinfo (splitUser user).1.toList ∧
      ∀ password, (splitUser user).2 = some password →
        password ≠ "" ∧ Percent.IsEscaped Percent.inUserinfo password.toList := by
  have escaped (text : List Char) :
      Percent.IsEscaped Percent.inUserinfo (Percent.encodeText Percent.inUserinfo text).toList := by
    rw [Percent.encodeText, String.toList_ofList]
    exact Percent.isEscaped_encode Percent.isEscapeSet_inUserinfo _
  refine ⟨escaped _, fun password isPassword => ?_⟩
  simp only [splitUser] at isPassword
  split at isPassword
  case isTrue => cases isPassword
  case isFalse some =>
    obtain rfl := Option.some.inj isPassword
    refine ⟨?_, escaped _⟩
    have stands := Percent.encode_ne_nil Percent.inUserinfo _ (by simpa using some)
    simpa [Percent.encodeText] using stands

/-- The user that was read is escaped. -/
theorem isEscaped_of_readUser (kind : SchemeKind) (text rest : List Char)
    (user : String × Option String) (read : readUser kind text = .ok (user, rest)) :
    Percent.IsEscaped Percent.inUserinfo user.1.toList ∧
      ∀ password, user.2 = some password →
        password ≠ "" ∧ Percent.IsEscaped Percent.inUserinfo password.toList := by
  simp only [readUser] at read
  split at read
  · split at read
    · cases read
    · obtain ⟨rfl, -⟩ := Prod.mk.inj (Except.ok.inj read)
      exact isEscaped_of_splitUser _
  · obtain ⟨rfl, -⟩ := Prod.mk.inj (Except.ok.inj read)
    exact ⟨by simp [Percent.IsEscaped], by simp⟩

theorem readHost_eq_ok (kind : SchemeKind) (text rest : List Char) (host : Host)
    (read : readHost kind text = .ok (host, rest)) :
    (∃ written, (if kind.isSpecial then Host.readSpecial written else Host.readGeneral written) =
      .ok host) ∧ (host = .empty → rest.head? ≠ some ':') := by
  rw [readHost_eq] at read
  obtain ⟨found, isHost, read⟩ := exists_of_bind_eq_ok read
  split at read
  case isTrue => cases read
  case isFalse alone =>
    obtain ⟨rfl, rfl⟩ := Prod.mk.inj (Except.ok.inj read)
    refine ⟨⟨(splitHost kind false text).1, ?_⟩, fun empty colon => alone ⟨empty, colon⟩⟩
    split at isHost
    case isTrue special =>
      split at isHost
      · cases isHost
      · rwa [if_pos special]
    case isFalse general => rwa [if_neg general]

theorem readPort_eq_ok (kind : SchemeKind) (text rest : List Char) (port : Option UInt16)
    (read : readPort kind text = .ok (port, rest)) :
    (∀ number, port = some number → kind ≠ .web number) ∧
      (text.head? ≠ some ':' → port = none) := by
  rw [readPort.eq_def] at read
  split at read
  · dsimp only at read
    split at read
    · obtain ⟨found, isPort, read⟩ := exists_of_bind_eq_ok read
      obtain ⟨rfl, -⟩ := Prod.mk.inj (Except.ok.inj read)
      refine ⟨fun number isNumber => ?_, by simp⟩
      simp only [portOf] at isPort
      split at isPort
      · have isPort := Except.ok.inj isPort
        split at isPort
        · simp [← isPort] at isNumber
        · simp_all
      · cases isPort
    · cases read
  · obtain ⟨rfl, -⟩ := Prod.mk.inj (Except.ok.inj read)
    exact ⟨by simp, fun _ => rfl⟩

/-- Reading a URL from its authority on reads an authority in normal form, and then the path. -/
theorem readAuthority_eq_ok (scheme : String) (text : List Char) (url : Url)
    (read : readAuthority scheme text = .ok url) :
    ∃ authority behind, authority.IsRead (SchemeKind.of scheme) ∧
      url = withPathBehindAuthority (SchemeKind.of scheme)
        ⟨scheme, some authority, .rooted [], none, none⟩ behind := by
  rw [readAuthority] at read
  obtain ⟨⟨⟨username, password⟩, behindUser⟩, isUser, read⟩ := exists_of_bind_eq_ok read
  obtain ⟨⟨host, behindHost⟩, isHost, read⟩ := exists_of_bind_eq_ok read
  obtain ⟨⟨port, behindPort⟩, isPort, read⟩ := exists_of_bind_eq_ok read
  dsimp only at read isHost isPort
  split at read
  case isTrue => cases read
  case isFalse alone =>
    have user := isEscaped_of_readUser _ _ _ _ isUser
    obtain ⟨hostRead, noColon⟩ := readHost_eq_ok _ _ _ _ isHost
    obtain ⟨notDefault, noPort⟩ := readPort_eq_ok _ _ _ _ isPort
    refine ⟨⟨username, password, host, port⟩, behindPort, ?_, (Except.ok.inj read).symm⟩
    exact
      { username := user.1
        password := user.2
        host := hostRead
        port := notDefault
        alone := fun empty => by
          have bare : username = "" ∧ password = none := by
            have empty : host = .empty := empty
            simpa [empty] using alone
          exact ⟨bare.1, bare.2, noPort (noColon empty)⟩ }

end Url

end ConfinedHttp
