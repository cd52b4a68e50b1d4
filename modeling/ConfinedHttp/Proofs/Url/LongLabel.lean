import ConfinedHttp.Proofs.Domain.IdeographReading
import ConfinedHttp.Proofs.Domain.PunycodeLength
import ConfinedHttp.Proofs.Url.UrlRereading

namespace ConfinedHttp

/-- A host with a special scheme has a label in ASCII form that goes on for more than 2000
characters behind the marker. -/
def Url.HasLongLabel (url : Url) : Prop :=
  (SchemeKind.of url.scheme).isSpecial = true ∧
    ∃ authority name, url.authority = some authority ∧ authority.host = .name name ∧
      ∃ written, Domain.marker ++ written ∈ splitAt (· == '.') name.toList ∧ 2000 < written.length

namespace Domain

theorem isShortLabel_eq_false_iff (label : List Char) :
    isShortLabel label = false ↔ ∃ written, label = marker ++ written ∧ 2000 < written.length := by
  simp only [isShortLabel, Bool.or_eq_false_iff, Bool.not_eq_false', List.isPrefixOf_iff_prefix,
    decide_eq_false_iff_not, not_le]
  constructor
  · rintro ⟨⟨written, rfl⟩, long⟩
    rw [List.length_append] at long
    exact ⟨written, rfl, by omega⟩
  · rintro ⟨written, rfl, long⟩
    rw [List.length_append]
    exact ⟨⟨written, rfl⟩, by omega⟩

theorem hasShortLabels_eq_false_iff (name : List Char) :
    hasShortLabels name = false ↔
      ∃ written, marker ++ written ∈ splitAt (· == '.') name ∧ 2000 < written.length := by
  simp only [hasShortLabels, List.all_eq_false, Bool.not_eq_true, isShortLabel_eq_false_iff]
  constructor
  · rintro ⟨label, inside, written, rfl, long⟩
    exact ⟨written, inside, long⟩
  · rintro ⟨written, inside, long⟩
    exact ⟨_, inside, written, rfl, long⟩

end Domain

/-- Nothing but a label that is too long keeps a URL from being read again. -/
theorem Url.hasLongLabel_iff (url : Url) : url.HasLongLabel ↔ url.hasShortLabels = false := by
  rw [HasLongLabel, hasShortLabels]
  cases url.authority with
  | none => simp
  | some authority =>
    cases special : (SchemeKind.of url.scheme).isSpecial with
    | false => simp [Authority.hasShortLabels, special]
    | true =>
      cases isHost : authority.host with
      | name text =>
        simp [Authority.hasShortLabels, special, isHost, Host.hasShortLabels,
          Domain.hasShortLabels_eq_false_iff]
      | empty => simp [Authority.hasShortLabels, special, isHost, Host.hasShortLabels]
      | ipv4 address => simp [Authority.hasShortLabels, special, isHost, Host.hasShortLabels]
      | ipv6 address => simp [Authority.hasShortLabels, special, isHost, Host.hasShortLabels]

/-- A label behind the marker is not a number. -/
theorem Ipv4.endsInNumber_marked (written : List Char)
    (single : splitAt (· == '.') (Domain.marker ++ written) = [Domain.marker ++ written]) :
    endsInNumber (Domain.marker ++ written) = false := by
  rw [endsInNumber, single]
  rfl

section Ideographs

variable {label : List Char} (ideographs : ∀ character ∈ label, IsIdeograph character.toNat)

include ideographs

theorem notMem_of_isIdeograph (mark : Char) (ascii : mark.toNat < 128) : mark ∉ label :=
  fun inside => (ideographs mark inside).wide ascii

/-- A label of ideographs is read as one host. -/
theorem Host.isWhole_of_isIdeograph : IsWhole label := by
  refine isWhole_of_isOrdinary label fun character inside => ?_
  have other (mark : Char) (ascii : mark.toNat < 128) : character ≠ mark := by
    rintro rfl
    exact (ideographs character inside).wide ascii
  refine ⟨?_, ?_, ?_⟩
  · have wide := (ideographs character inside).wide
    change (' ' : Char).toNat < character.toNat
    have space : (' ' : Char).toNat = 32 := rfl
    omega
  · simp [SchemeKind.endsAuthority, SchemeKind.isSlash, other '/' (by decide),
      other '\\' (by decide), other '?' (by decide), other '#' (by decide)]
  · simp [other '@' (by decide), other ':' (by decide), other '[' (by decide),
      other ']' (by decide), other '|' (by decide)]

/-- The ASCII form of a label of ideographs is one label. -/
theorem Domain.splitAt_encode (some : label ≠ []) (short : label.length ≤ 1000) :
    splitAt (· == '.') (marker ++ Punycode.encode label) = [marker ++ Punycode.encode label] := by
  have sound := isSound_of_readLabel label label (readLabel_of_isIdeograph ideographs short)
  have noDot := dot_notMem_writeLabel sound
  rw [writeLabel, not_isAscii_of_isIdeograph ideographs some] at noDot
  exact splitAt_of_clean _ _ noDot

/-- A label of ideographs is a domain name, and the host is its form in ASCII. -/
theorem Host.readSpecial_of_isIdeograph (some : label ≠ []) (short : label.length ≤ 1000) :
    readSpecial label =
      .ok (.name (String.ofList (Domain.marker ++ Domain.Punycode.encode label))) := by
  have noNumber := Ipv4.endsInNumber_marked _ (Domain.splitAt_encode ideographs some short)
  have filled : (Domain.marker ++ Domain.Punycode.encode label).isEmpty = false := rfl
  rw [readSpecial_of_notMem label (notMem_of_isIdeograph ideographs '[' (by decide))
      (notMem_of_isIdeograph ideographs '%' (by decide)),
    Domain.toAscii_of_isIdeograph ideographs some short]
  simp only [ofDomain, filled, noNumber, Bool.false_eq_true, if_false]

end Ideographs

namespace Url

/-- Seven hundred and twenty ideographs that lie 29 apart. -/
def longLabel : List Char :=
  (List.range 720).map fun place => Char.ofNat (firstIdeograph + 29 * place)

/-- A URL whose host is the long label. -/
def longUrl : String := String.ofList ("https://".toList ++ (longLabel ++ ['/', 'c', 'b']))

theorem length_longLabel : longLabel.length = 720 := by
  rw [longLabel, List.length_map, List.length_range]

theorem longLabel_ne_nil : longLabel ≠ [] := List.ne_nil_of_length_eq_add_one length_longLabel

theorem length_longLabel_le : longLabel.length ≤ 1000 := by
  rw [length_longLabel]
  decide

theorem toNat_longLabel :
    longLabel.map Char.toNat = (List.range 720).map fun place => firstIdeograph + 29 * place := by
  rw [longLabel, List.map_map]
  refine List.map_congr_left fun place inside => ?_
  rw [List.mem_range] at inside
  have valid : (firstIdeograph + 29 * place).isValidChar := by
    simp only [firstIdeograph, Nat.isValidChar]
    omega
  simp [Function.comp, Char.toNat_ofNat, valid]

theorem isIdeograph_longLabel : ∀ character ∈ longLabel, IsIdeograph character.toNat := by
  intro character inside
  have code := List.mem_map_of_mem (f := Char.toNat) inside
  rw [toNat_longLabel] at code
  obtain ⟨place, within, equal⟩ := List.mem_map.mp code
  rw [List.mem_range] at within
  rw [← equal, IsIdeograph, firstIdeograph, lastIdeograph]
  omega

/-- The long label takes more than 2000 characters in ASCII. -/
theorem length_encode_longLabel : 2000 < (Domain.Punycode.encode longLabel).length := by
  have apart : (longLabel.map Char.toNat).Pairwise (· + 29 ≤ ·) := by
    rw [toNat_longLabel, List.pairwise_map]
    exact List.pairwise_lt_range.imp fun above => by omega
  have wide : ∀ character ∈ longLabel, 156 ≤ character.toNat := by
    intro character inside
    obtain ⟨above, -⟩ := isIdeograph_longLabel character inside
    exact le_trans (by decide) above
  have long := Domain.Punycode.length_encode longLabel apart wide
  rw [length_longLabel] at long
  omega

/-- The URL with the long label has the label in ASCII. -/
theorem parse_longUrl_eq :
    parse longUrl = .ok (withPathBehindAuthority (.web 443)
      ⟨"https", some ⟨"", none,
        .name (String.ofList (Domain.marker ++ Domain.Punycode.encode longLabel)), none⟩,
        .rooted [], none, none⟩ ['/', 'c', 'b']) := by
  have read :=
    Host.readSpecial_of_isIdeograph isIdeograph_longLabel longLabel_ne_nil length_longLabel_le
  have visible : IsVisible ['/', 'c', 'b'] :=
    .cons (by decide) (.cons (by decide) (.cons (by decide) (by simp [IsVisible])))
  exact parse_https longLabel ['/', 'c', 'b'] (Host.isWhole_of_isIdeograph isIdeograph_longLabel)
    longLabel_ne_nil _ read visible (by rintro next ⟨⟩; rfl)

/-- A URL of the web whose host is the long label in ASCII. -/
theorem hasLongLabel_of_longLabel {url : Url} (special : (SchemeKind.of url.scheme).isSpecial = true)
    (isAuthority : url.authority = some ⟨"", none,
      .name (String.ofList (Domain.marker ++ Domain.Punycode.encode longLabel)), none⟩) :
    url.HasLongLabel := by
  refine ⟨special, _, _, isAuthority, rfl, Domain.Punycode.encode longLabel, ?_,
    length_encode_longLabel⟩
  rw [String.toList_ofList, Domain.splitAt_encode isIdeograph_longLabel longLabel_ne_nil length_longLabel_le]
  exact List.mem_singleton_self _

/-- The URL with the long label is accepted, although its own text has the label in ASCII. -/
theorem parse_longUrl : ∃ url, parse longUrl = .ok url ∧ url.isRootless = false ∧ url.HasLongLabel :=
  ⟨_, parse_longUrl_eq, rfl, hasLongLabel_of_longLabel rfl rfl⟩

end Url

end ConfinedHttp
