import ConfinedHttp.Host
import ConfinedHttp.Proofs.Domain.PunycodeReading
import ConfinedHttp.Proofs.Text.Escaping
import ConfinedHttp.Proofs.Text.Splitting
import ConfinedHttp.Url.Scheme

namespace ConfinedHttp

theorem exists_digit_of_mem_toDigits (base : Nat) (large : 1 < base) (value : Nat) (digit : Char)
    (inside : digit ∈ Nat.toDigits base value) : ∃ place < base, digit = place.digitChar := by
  induction value using Nat.strongRecOn with
  | ind value inductionHypothesis =>
    rw [Nat.toDigits_eq_if large] at inside
    split at inside
    case isTrue small => exact ⟨value, small, List.mem_singleton.mp inside⟩
    case isFalse notSmall =>
      obtain before | last := List.mem_append.mp inside
      · exact inductionHypothesis _ (Nat.div_lt_self (by omega) large) before
      · exact ⟨value % base, Nat.mod_lt _ (by omega), List.mem_singleton.mp last⟩

namespace Domain

/-- A character of a domain name in ASCII. -/
def IsPlain (character : Char) : Prop := character.toNat < 128 ∧ isDenied character = false

instance (character : Char) : Decidable (IsPlain character) := inferInstanceAs (Decidable (_ ∧ _))

namespace Punycode

theorem isPlain_of_isDigit (character : Char) (isDigit : IsDigit character) :
    IsPlain character := by
  obtain ⟨value, small, rfl⟩ := isDigit
  revert value
  decide

/-- The ASCII form of a label adds only a hyphen and digits to its ASCII characters. -/
theorem isPlain_of_mem_encode (label : List Char)
    (basic : ∀ character ∈ label, character.toNat < 128 → IsPlain character) :
    ∀ character ∈ encode label, IsPlain character := by
  intro character inside
  simp only [encode_eq, List.mem_append] at inside
  obtain (kept | hyphen) | digit := inside
  · obtain ⟨within, ascii⟩ := List.mem_filter.mp kept
    exact basic character within (by simpa using ascii)
  · split at hyphen
    · simp at hyphen
    · rw [List.mem_singleton.mp hyphen]
      decide
  · exact isPlain_of_isDigit character (isDigit_of_mem_digitsOf label character digit)

end Punycode

/-- The label that was read is sound, whichever form it was written in. -/
theorem isSound_of_readLabel (label script : List Char) (read : readLabel? label = some script) :
    isSound script = true := by
  have checked : ∃ found,
      (if isSound found && (isAscii label || label.length ≤ 1000) then some found else none) =
        some script := by
    simp only [readLabel?, bind] at read
    split at read
    · split at read
      · exact (Option.bind_eq_some_iff.mp read).imp fun _ => And.right
      · simp at read
    · exact (Option.bind_eq_some_iff.mp read).imp fun _ => And.right
  obtain ⟨found, equal⟩ := checked
  split at equal
  case isTrue both =>
    rw [← Option.some.inj equal]
    exact (Bool.and_eq_true_iff.mp both).1
  case isFalse => simp at equal

/-- A sound label holds no ASCII character that is denied, and no dot. -/
theorem isPlain_of_isSound (script : List Char) (sound : isSound script = true) :
    ∀ character ∈ script, character.toNat < 128 → IsPlain character ∧ character ≠ '.' := by
  intro character inside ascii
  simp only [isSound, Bool.and_eq_true, List.all_eq_true] at sound
  have stands := sound.1.1.1 character inside
  simp only [mayStand, ascii, if_true] at stands
  simp_all [IsPlain]

/-- A label that was read holds no ASCII character that is denied. -/
theorem isPlain_of_readLabel (label script : List Char) (read : readLabel? label = some script) :
    ∀ character ∈ script, character.toNat < 128 → IsPlain character :=
  fun character inside ascii =>
    (isPlain_of_isSound script (isSound_of_readLabel label script read) character inside ascii).1

theorem isPlain_of_mem_writeLabel (script : List Char)
    (basic : ∀ character ∈ script, character.toNat < 128 → IsPlain character) :
    ∀ character ∈ writeLabel script, IsPlain character := by
  intro character inside
  rw [writeLabel] at inside
  split at inside
  case isTrue ascii =>
    have small := List.all_eq_true.mp ascii character inside
    exact basic character inside (by simpa using small)
  case isFalse =>
    obtain mark | encoded := List.mem_append.mp inside
    · exact forall_mem_of_all marker (by decide) character mark
    · exact Punycode.isPlain_of_mem_encode script basic character encoded

/-- Every label of a domain name was read from a part of its mapped text. -/
theorem exists_readLabel_of_labels (name : List Char) (scripts : List (List Char))
    (found : labels? name = some scripts) :
    ∀ script ∈ scripts, ∃ label, readLabel? label = some script := by
  simp only [labels?, bind, Option.bind_eq_some_iff] at found
  obtain ⟨mapped, -, written, readAll, kept⟩ := found
  split at kept
  · simp at kept
  · obtain rfl := Option.some.inj kept
    intro script inside
    obtain ⟨label, -, read⟩ := exists_of_mem_mapM _ _ _ readAll script inside
    exact ⟨label, read⟩

/-- The ASCII form of a domain name holds only ASCII characters that are not denied. -/
theorem isPlain_of_toAscii (name domain : List Char) (read : toAscii? name = some domain) :
    ∀ character ∈ domain, IsPlain character := by
  simp only [toAscii?, Option.map_eq_some_iff] at read
  obtain ⟨scripts, found, rfl⟩ := read
  intro character inside
  obtain dot | ⟨label, within, here⟩ := mem_intercalate _ _ character inside
  · rw [List.mem_singleton.mp dot]
    decide
  · obtain ⟨script, isScript, rfl⟩ := List.mem_map.mp within
    obtain ⟨source, readSource⟩ := exists_readLabel_of_labels name scripts found script isScript
    exact isPlain_of_mem_writeLabel script (isPlain_of_readLabel _ script readSource) character here

end Domain

/-- Nothing in a text ends the authority of a URL. -/
def StaysInAuthority (text : List Char) : Prop :=
  ∀ character ∈ text, SchemeKind.file.endsAuthority character = false

instance (text : List Char) : Decidable (StaysInAuthority text) := List.decidableBAll _ _

theorem staysInAuthority_toDigits (base : Nat) (large : 1 < base) (bounded : base ≤ 16)
    (value : Nat) : StaysInAuthority (Nat.toDigits base value) := by
  intro digit inside
  obtain ⟨place, small, rfl⟩ := exists_digit_of_mem_toDigits base large value digit inside
  have each : ∀ place < 16, SchemeKind.file.endsAuthority place.digitChar = false := by decide
  exact each place (by omega)

theorem StaysInAuthority.append {first second : List Char} (left : StaysInAuthority first)
    (right : StaysInAuthority second) : StaysInAuthority (first ++ second) :=
  List.forall_mem_append.mpr ⟨left, right⟩

theorem StaysInAuthority.cons {character : Char} {text : List Char}
    (first : SchemeKind.file.endsAuthority character = false) (rest : StaysInAuthority text) :
    StaysInAuthority (character :: text) :=
  List.forall_mem_cons.mpr ⟨first, rest⟩

theorem StaysInAuthority.intercalate {mark : Char} {pieces : List (List Char)}
    (between : SchemeKind.file.endsAuthority mark = false)
    (each : ∀ piece ∈ pieces, StaysInAuthority piece) :
    StaysInAuthority ([mark].intercalate pieces) := by
  intro character inside
  obtain isMark | ⟨piece, within, here⟩ := mem_intercalate _ _ character inside
  · rw [List.mem_singleton.mp isMark]
    exact between
  · exact each piece within character here

theorem Ipv4.staysInAuthority_write (address : Ipv4) : StaysInAuthority address.write := by
  refine .intercalate (by decide) fun piece inside => ?_
  obtain ⟨value, -, rfl⟩ := List.mem_map.mp inside
  exact staysInAuthority_toDigits 10 (by decide) (by decide) value

theorem Ipv6.staysInAuthority_writeGroups (groups : List UInt16) :
    StaysInAuthority (writeGroups groups) := by
  refine .intercalate (by decide) fun piece inside => ?_
  obtain ⟨group, -, rfl⟩ := List.mem_map.mp inside
  exact staysInAuthority_toDigits 16 (by decide) (by decide) group.toNat

theorem Ipv6.staysInAuthority_write (address : Ipv6) : StaysInAuthority address.write := by
  simp only [write]
  split
  · exact staysInAuthority_writeGroups _
  · exact (staysInAuthority_writeGroups _).append
      (.cons (by decide) (.cons (by decide) (staysInAuthority_writeGroups _)))

theorem Domain.staysInAuthority_of_isPlain (domain : List Char)
    (plain : ∀ character ∈ domain, IsPlain character) : StaysInAuthority domain := by
  intro character inside
  by_contra ends
  have ends : SchemeKind.file.endsAuthority character = true := by simpa using ends
  have denied := (plain character inside).2
  simp only [SchemeKind.endsAuthority, SchemeKind.isSlash, Bool.or_eq_true, Bool.and_eq_true,
    beq_iff_eq] at ends
  rcases ends with ((rfl | ⟨rfl, -⟩) | rfl) | rfl <;> simp [isDenied] at denied

theorem Ipv4.write_ne_nil (address : Ipv4) : address.write ≠ [] := by
  simp [write, bytes, List.intercalate_cons_cons, Ascii.decimal, Nat.toDigits_ne_nil]

namespace Host

/-- The brackets of a host hold an address. -/
theorem readBracketed_eq_ok (text : List Char) (host : Host)
    (read : readBracketed? text = some (.ok host)) : ∃ address, host = .ipv6 address := by
  rw [readBracketed?.eq_def] at read
  split at read
  · have inner := Option.some.inj read
    split at inner
    · split at inner
      case h_1 address _ => exact ⟨address, (Except.ok.inj inner).symm⟩
      case h_2 => simp at inner
    · simp at inner
  · simp at read

/-- A host with a special scheme is an address or the ASCII form of a domain name that does not look
like an address. -/
theorem readSpecial_eq_ok (text : List Char) (host : Host) (read : readSpecial text = .ok host) :
    (∃ address, host = .ipv6 address) ∨ (∃ address, host = .ipv4 address) ∨
      ∃ source domain, Domain.toAscii? source = some domain ∧ domain ≠ [] ∧
        Ipv4.endsInNumber domain = false ∧ host = .name (String.ofList domain) := by
  rw [readSpecial] at read
  split at read
  case h_1 result bracketed =>
    exact .inl (readBracketed_eq_ok text host (read ▸ bracketed))
  case h_2 =>
    split at read
    case h_1 => simp at read
    case h_2 domain found =>
      obtain ⟨name, -, isDomain⟩ := Option.bind_eq_some_iff.mp found
      split at read
      case isTrue => simp at read
      case isFalse some =>
        split at read
        case isTrue =>
          split at read
          case h_1 address _ => exact .inr (.inl ⟨address, (Except.ok.inj read).symm⟩)
          case h_2 => simp at read
        case isFalse isName =>
          exact .inr (.inr ⟨name, domain, isDomain, by simpa using some, by simpa using isName,
            (Except.ok.inj read).symm⟩)

theorem staysInAuthority_write_of_readSpecial (text : List Char) (host : Host)
    (read : readSpecial text = .ok host) : StaysInAuthority host.write := by
  obtain ⟨address, rfl⟩ | ⟨address, rfl⟩ | ⟨source, domain, isDomain, -, -, rfl⟩ :=
    readSpecial_eq_ok text host read
  · have close : StaysInAuthority [']'] := by decide
    exact .cons (by decide) (address.staysInAuthority_write.append close)
  · exact address.staysInAuthority_write
  · rw [write, String.toList_ofList]
    exact Domain.staysInAuthority_of_isPlain domain (Domain.isPlain_of_toAscii _ _ isDomain)

theorem write_ne_nil_of_readSpecial (text : List Char) (host : Host)
    (read : readSpecial text = .ok host) : host.write ≠ [] := by
  obtain ⟨address, rfl⟩ | ⟨address, rfl⟩ | ⟨source, domain, -, some, -, rfl⟩ :=
    readSpecial_eq_ok text host read
  · simp [write]
  · exact address.write_ne_nil
  · simpa [write] using some

end Host

end ConfinedHttp
