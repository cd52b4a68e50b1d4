import ConfinedHttp.Proofs.FormReading
import ConfinedHttp.Proofs.Url.AddressReading
import ConfinedHttp.Url.Parse

namespace ConfinedHttp

/-- Nothing in a text is a space or a control that cleaning would remove. -/
def IsVisible (text : List Char) : Prop := ∀ character ∈ text, ' ' < character

theorem IsVisible.append {first second : List Char} (left : IsVisible first)
    (right : IsVisible second) : IsVisible (first ++ second) :=
  List.forall_mem_append.mpr ⟨left, right⟩

theorem IsVisible.cons {character : Char} {text : List Char} (first : ' ' < character)
    (rest : IsVisible text) : IsVisible (character :: text) :=
  List.forall_mem_cons.mpr ⟨first, rest⟩

namespace Utf8

/-- A text without a percent sign has no percent sign among its bytes. -/
theorem ne_percent_of_mem_encode (text : List Char) (noSign : '%' ∉ text) :
    ∀ byte ∈ encode text, byte ≠ 0x25 := by
  rintro byte inside rfl
  exact noSign (mem_of_mem_encode text 0x25 inside (by decide))

end Utf8

namespace Percent

/-- Bytes without a percent sign stand for themselves. -/
theorem decode_of_no_percent (bytes : Bytes) (noSign : ∀ byte ∈ bytes, byte ≠ 0x25) :
    decode bytes = bytes := by
  induction bytes with
  | nil => rfl
  | cons byte rest inductionHypothesis =>
    obtain ⟨first, others⟩ := List.forall_mem_cons.mp noSign
    rw [decode_cons_of_ne byte rest first, inductionHypothesis others]

theorem isEscapeSet_isControl : IsEscapeSet isControl := ⟨fun _ => id, by decide, by decide⟩

theorem encode_ne_nil (escaped : UInt8 → Bool) (text : List Char) (some : text ≠ []) :
    encode escaped (Utf8.encode text) ≠ [] := by
  cases text with
  | nil => exact absurd rfl some
  | cons first rest =>
    obtain ⟨byte, bytes, equal⟩ :=
      List.exists_cons_of_ne_nil (String.utf8EncodeChar_ne_nil (c := first))
    rw [Utf8.encode_cons, equal, List.cons_append, encode_cons]
    split <;> simp [escape]

end Percent

/-- No scheme ends the authority at a character that stays in it for all schemes. -/
theorem SchemeKind.endsAuthority_eq_false (kind : SchemeKind) (character : Char)
    (stays : SchemeKind.file.endsAuthority character = false) :
    kind.endsAuthority character = false := by
  simp only [SchemeKind.endsAuthority, SchemeKind.isSlash, Bool.or_eq_false_iff] at stays ⊢
  obtain ⟨⟨⟨noSlash, noBackslash⟩, noQuery⟩, noFragment⟩ := stays
  have noBackslash : (character == '\\') = false := by
    simpa [SchemeKind.isSpecial] using noBackslash
  exact ⟨⟨⟨noSlash, by rw [noBackslash, Bool.false_and]⟩, noQuery⟩, noFragment⟩

namespace Host

/-- A character that belongs to a host wherever it stands outside brackets. -/
def IsOrdinary (character : Char) : Prop :=
  ' ' < character ∧ SchemeKind.file.endsAuthority character = false ∧
    character ∉ ['@', ':', '[', ']', '|']

instance (character : Char) : Decidable (IsOrdinary character) :=
  inferInstanceAs (Decidable (_ ∧ _ ∧ _))

theorem isOrdinary_of_isPlain (character : Char) (plain : Domain.IsPlain character) :
    IsOrdinary character := by
  obtain ⟨ascii, kept⟩ := plain
  revert kept
  refine Ascii.forall_of_forall_code ?_ character ascii
  decide +kernel

theorem isOrdinary_of_not_forbidden (character : Char) (ascii : character.toNat < 128)
    (noControl : Percent.isControl (UInt8.ofNat character.toNat) = false)
    (allowed : isForbidden character = false) : IsOrdinary character := by
  revert noControl allowed
  refine Ascii.forall_of_forall_code ?_ character ascii
  decide +kernel

/-- What may stand behind a host: a port, or something that ends the authority. -/
def EndsHost (kind : SchemeKind) (rest : List Char) : Prop :=
  ∀ next ∈ rest.head?, next = ':' ∨ kind.endsAuthority next = true

/-- A text that is read as one host, and is no drive letter. -/
structure IsWhole (text : List Char) : Prop where
  visible : IsVisible text
  stays : StaysInAuthority text
  noAt : '@' ∉ text
  cut : ∀ kind rest, EndsHost kind rest → Url.splitHost kind false (text ++ rest) = (text, rest)
  noDrive : Segments.isDrive text = false

theorem splitHost_of_endsHost (kind : SchemeKind) (rest : List Char)
    (ends : EndsHost kind rest) : Url.splitHost kind false rest = ([], rest) := by
  cases rest with
  | nil => rfl
  | cons next others =>
    have stops := ends next rfl
    rw [Url.splitHost, if_pos (by simpa using stops)]

/-- Neither a bracket nor the end of the host is in a text, so cutting passes it. -/
theorem splitHost_append (kind : SchemeKind) (inBrackets : Bool) (text rest : List Char)
    (stays : StaysInAuthority text) (noBracket : ∀ character ∈ text, character ∉ ['[', ']'])
    (noColon : inBrackets = false → ':' ∉ text) :
    Url.splitHost kind inBrackets (text ++ rest) =
      (text ++ (Url.splitHost kind inBrackets rest).1,
        (Url.splitHost kind inBrackets rest).2) := by
  induction text with
  | nil => rfl
  | cons character others inductionHypothesis =>
    obtain ⟨here, later⟩ := List.forall_mem_cons.mp noBracket
    have goes : ¬ ((character == ':' && !inBrackets) || kind.endsAuthority character) = true := by
      have colon : inBrackets = false → character ≠ ':' :=
        fun outside equal => noColon outside (equal ▸ List.mem_cons_self ..)
      rw [kind.endsAuthority_eq_false character (stays character (List.mem_cons_self ..))]
      cases inBrackets <;> simp_all
    have same : (character == '[' || (inBrackets && character != ']')) = inBrackets := by
      have noOpening : (character == '[') = false := by simp_all
      have noClosing : (character != ']') = true := by simp_all
      rw [noOpening, noClosing, Bool.and_true, Bool.false_or]
    rw [List.cons_append, Url.splitHost, if_neg goes, same,
      inductionHypothesis (fun other inside => stays other (List.mem_cons_of_mem _ inside)) later
        fun outside inside => noColon outside (List.mem_cons_of_mem _ inside)]
    rfl

theorem isWhole_of_isOrdinary (text : List Char)
    (ordinary : ∀ character ∈ text, IsOrdinary character) : IsWhole text where
  visible character inside := (ordinary character inside).1
  stays character inside := (ordinary character inside).2.1
  noAt inside := absurd (ordinary '@' inside) (by decide)
  cut kind rest ends := by
    rw [splitHost_append kind false text rest fun character inside => (ordinary character inside).2.1]
    · simp [splitHost_of_endsHost kind rest ends]
    · intro character inside bracket
      have ordinary := (ordinary character inside).2.2
      simp_all
    · exact fun _ inside => absurd (ordinary ':' inside) (by decide)
  noDrive := by
    rw [Segments.isDrive.eq_def]
    split
    case h_1 letter mark =>
      have ordinary := (ordinary mark (by simp)).2.2
      simp_all
    case h_2 => rfl

/-- Apart from the brackets around it, the text of an address holds digits and colons. -/
theorem mem_write_ipv6 (address : Ipv6) (character : Char) (inside : character ∈ address.write) :
    character = ':' ∨ ∃ place < 16, character = place.digitChar := by
  have inGroups (groups : List UInt16) (within : character ∈ Ipv6.writeGroups groups) :
      character = ':' ∨ ∃ place < 16, character = place.digitChar := by
    obtain mark | ⟨piece, isPiece, digit⟩ := mem_intercalate _ _ character within
    · exact .inl (List.mem_singleton.mp mark)
    · obtain ⟨group, -, rfl⟩ := List.mem_map.mp isPiece
      exact .inr (exists_digit_of_mem_toDigits 16 (by decide) group.toNat character digit)
  simp only [Ipv6.write] at inside
  split at inside
  · exact inGroups _ inside
  · simp only [List.mem_append, List.mem_cons] at inside
    obtain before | mark | mark | behind := inside
    · exact inGroups _ before
    · exact .inl mark
    · exact .inl mark
    · exact inGroups _ behind

theorem isWhole_ipv6 (address : Ipv6) : IsWhole (write (.ipv6 address)) := by
  have each (character : Char) (inside : character ∈ address.write) :
      ' ' < character ∧ SchemeKind.file.endsAuthority character = false ∧
        character ∉ ['@', '[', ']'] := by
    have digits : ∀ place < 16, ' ' < place.digitChar ∧
        SchemeKind.file.endsAuthority place.digitChar = false ∧
        place.digitChar ∉ ['@', '[', ']'] := by
      decide
    obtain rfl | ⟨place, small, rfl⟩ := mem_write_ipv6 address character inside
    · decide
    · exact digits place small
  have stays : StaysInAuthority address.write := fun character inside => (each character inside).2.1
  refine
    { visible := ?_
      stays := ?_
      noAt := ?_
      cut := fun kind rest ends => ?_
      noDrive := ?_ }
  · exact .cons (by decide)
      (.append (fun character inside => (each character inside).1) (.cons (by decide) (by
        simp [IsVisible])))
  · have close : StaysInAuthority [']'] := by decide
    exact .cons (by decide) (stays.append close)
  · intro inside
    have within : '@' ∈ address.write := by simpa [write] using inside
    exact absurd (each '@' within).2.2 (by decide)
  · have goes : ∀ mark ∈ ['[', ']'],
        ¬ ((mark == ':' && !(mark == ']')) || kind.endsAuthority mark) = true := by
      intro mark inside
      have bracket : SchemeKind.file.endsAuthority mark = false ∧ mark ≠ ':' := by
        obtain rfl | rfl : mark = '[' ∨ mark = ']' := by simpa using inside
        all_goals decide
      simp [kind.endsAuthority_eq_false mark bracket.1, bracket.2]
    have opens := goes '[' (by simp)
    have closes := goes ']' (by simp)
    have inner := splitHost_append kind true address.write (']' :: rest) stays
      (fun character inside bracket => (each character inside).2.2 (by simp_all)) (by simp)
    rw [Url.splitHost, if_neg (by simpa using closes)] at inner
    simp only [write, List.cons_append, List.append_assoc, List.nil_append]
    rw [Url.splitHost, if_neg (by simpa using opens)]
    simp only [beq_self_eq_true, Bool.true_or, inner]
    simp [splitHost_of_endsHost kind rest ends]
  · rw [Segments.isDrive.eq_def]
    split
    case h_1 equal =>
      obtain ⟨rfl, -⟩ := List.cons.inj equal
      rfl
    case h_2 => rfl

theorem readBracketed_eq_none (text : List Char) (plain : '[' ∉ text) : readBracketed? text = none := by
  rw [readBracketed?.eq_def]
  split
  · simp at plain
  · rfl

theorem readBracketed_write (address : Ipv6) :
    readBracketed? (write (.ipv6 address)) = some (.ok (.ipv6 address)) := by
  simp [readBracketed?, write, Ipv6.read_write]

/-- This function makes a host of what a domain name is in ASCII. -/
def ofDomain : Option (List Char) → Except UrlError Host
  | none => .error .badDomain
  | some domain =>
    if domain.isEmpty then .error .emptyHost
    else if Ipv4.endsInNumber domain then
      match Ipv4.read? domain with
      | some address => .ok (.ipv4 address)
      | none => .error .badIpv4
    else .ok (.name (String.ofList domain))

/-- Without a bracket and escapes, a text is a domain name as it stands. -/
theorem readSpecial_of_notMem (text : List Char) (noBracket : '[' ∉ text) (noSign : '%' ∉ text) :
    readSpecial text = ofDomain (Domain.toAscii? text) := by
  have decoded : (Utf8.decode? (Percent.decode (Utf8.encode text))).bind Domain.toAscii? =
      Domain.toAscii? text := by
    rw [Percent.decode_of_no_percent _ (Utf8.ne_percent_of_mem_encode text noSign),
      Utf8.decode_encode, Option.bind_some]
  rw [readSpecial, readBracketed_eq_none text noBracket, decoded]
  rfl

theorem readSpecial_of_isPlain (domain : List Char)
    (plain : ∀ character ∈ domain, Domain.IsPlain character) :
    readSpecial domain = ofDomain (Domain.toAscii? domain) :=
  readSpecial_of_notMem domain (fun inside => absurd (plain '[' inside) (by decide))
    fun inside => absurd (plain '%' inside) (by decide)

/-- A host can be read again when its labels are short enough. -/
def hasShortLabels : Host → Bool
  | name text => Domain.hasShortLabels text.toList
  | _ => true

/-- The text of a host with a special scheme is read as the host, unless a label is too long. -/
theorem readSpecial_write (text : List Char) (host : Host) (read : readSpecial text = .ok host) :
    readSpecial host.write =
      if host.hasShortLabels then .ok host else .error .badDomain := by
  obtain ⟨address, rfl⟩ | ⟨address, rfl⟩ | ⟨source, domain, isDomain, some, isName, rfl⟩ :=
    readSpecial_eq_ok text host read
  · rw [readSpecial, readBracketed_write]
    rfl
  · rw [write, readSpecial_of_isPlain _
        (Domain.isPlain_of_toAscii _ _ (Ipv4.toAscii_write address)), Ipv4.toAscii_write]
    simp [ofDomain, Ipv4.write_ne_nil, Ipv4.endsInNumber_write, Ipv4.read_write, hasShortLabels]
  · have again := Domain.toAscii_of_toAscii source domain isDomain
    rw [write, String.toList_ofList,
      readSpecial_of_isPlain domain (Domain.isPlain_of_toAscii source domain isDomain), again,
      hasShortLabels, String.toList_ofList]
    cases Domain.hasShortLabels domain with
    | true => simp [ofDomain, some, isName]
    | false => rfl

theorem isWhole_of_readSpecial (text : List Char) (host : Host) (read : readSpecial text = .ok host) :
    IsWhole host.write := by
  have plain (name domain : List Char) (isDomain : Domain.toAscii? name = some domain) :
      IsWhole domain :=
    isWhole_of_isOrdinary domain fun character inside =>
      isOrdinary_of_isPlain character (Domain.isPlain_of_toAscii name domain isDomain character inside)
  obtain ⟨address, rfl⟩ | ⟨address, rfl⟩ | ⟨source, domain, isDomain, -, -, rfl⟩ :=
    readSpecial_eq_ok text host read
  · exact isWhole_ipv6 address
  · exact plain _ _ (Ipv4.toAscii_write address)
  · rw [write, String.toList_ofList]
    exact plain source domain isDomain

/-- A host with a general scheme is an address, nothing, or a text without marks. -/
theorem readGeneral_eq_ok (text : List Char) (host : Host) (read : readGeneral text = .ok host) :
    (∃ address, host = .ipv6 address) ∨ host = .empty ∨
      (∀ character ∈ text, isForbidden character = false) ∧ text ≠ [] ∧
        host = .name (Percent.encodeText Percent.isControl text) := by
  rw [readGeneral] at read
  split at read
  case h_1 result bracketed => exact .inl (readBracketed_eq_ok text host (read ▸ bracketed))
  case h_2 =>
    split at read
    case isTrue => cases read
    case isFalse allowed =>
      split at read
      case isTrue => exact .inr (.inl (Except.ok.inj read).symm)
      case isFalse some =>
        exact .inr (.inr ⟨by simpa using allowed, by simpa using some, (Except.ok.inj read).symm⟩)

/-- Escaping controls adds no forbidden character. -/
theorem not_forbidden_of_mem_encode (text : List Char)
    (allowed : ∀ character ∈ text, isForbidden character = false) :
    ∀ character ∈ Percent.encode Percent.isControl (Utf8.encode text),
      isForbidden character = false := by
  intro character inside
  by_cases sign : character = '%'
  · rw [sign]
    decide
  by_cases digit : ∃ value < 16, character = Ascii.upperHexDigit value
  · obtain ⟨value, small, rfl⟩ := digit
    have each : ∀ value < 16, isForbidden (Ascii.upperHexDigit value) = false := by decide
    exact each value small
  · exact allowed character
      (Percent.mem_of_mem_encode Percent.isEscapeSet_isControl text character inside sign
        fun value small equal => digit ⟨value, small, equal⟩)

theorem isOrdinary_of_mem_encode (text : List Char)
    (allowed : ∀ character ∈ text, isForbidden character = false) :
    ∀ character ∈ Percent.encode Percent.isControl (Utf8.encode text), IsOrdinary character := by
  intro character inside
  obtain ⟨ascii, kept⟩ :=
    Percent.isEscaped_encode Percent.isEscapeSet_isControl _ character inside
  exact isOrdinary_of_not_forbidden character ascii kept
    (not_forbidden_of_mem_encode text allowed character inside)

theorem isWhole_of_readGeneral (text : List Char) (host : Host) (read : readGeneral text = .ok host) :
    IsWhole host.write := by
  obtain ⟨address, rfl⟩ | rfl | ⟨allowed, -, rfl⟩ := readGeneral_eq_ok text host read
  · exact isWhole_ipv6 address
  · exact isWhole_of_isOrdinary [] (by simp)
  · rw [write, Percent.encodeText, String.toList_ofList]
    exact isWhole_of_isOrdinary _ (isOrdinary_of_mem_encode text allowed)

/-- The text of a host with a general scheme is read as the host. -/
theorem readGeneral_write (text : List Char) (host : Host) (read : readGeneral text = .ok host) :
    readGeneral host.write = .ok host := by
  obtain ⟨address, rfl⟩ | rfl | ⟨allowed, some, rfl⟩ := readGeneral_eq_ok text host read
  · rw [readGeneral, readBracketed_write]
  · rfl
  · have ordinary := isOrdinary_of_mem_encode text allowed
    have forbidden : (Percent.encode Percent.isControl (Utf8.encode text)).any isForbidden = false :=
      by simpa using not_forbidden_of_mem_encode text allowed
    have again := Percent.encode_of_isEscaped _
      (Percent.isEscaped_encode Percent.isEscapeSet_isControl (Utf8.encode text))
    have noBracket : '[' ∉ Percent.encode Percent.isControl (Utf8.encode text) :=
      fun inside => absurd (ordinary '[' inside) (by decide)
    have stands := Percent.encode_ne_nil Percent.isControl text some
    simp only [write, Percent.encodeText, String.toList_ofList, readGeneral,
      readBracketed_eq_none _ noBracket, forbidden, again]
    simp [stands]

end Host

end ConfinedHttp
