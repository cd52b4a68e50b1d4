import ConfinedHttp.Proofs.Url.DirectoryRereading
import ConfinedHttp.Proofs.Url.LongLabel

/-!
Which texts become a prefix, and what is stored for them.  Containment is tested against the stored
text, so it is the normal form: reading it again changes nothing.
-/

namespace ConfinedHttp

namespace Url

theorem asDirectory_asDirectory (url : Url) : url.asDirectory.asDirectory = url.asDirectory := by
  have path : url.path.asDirectory.asDirectory = url.path.asDirectory := by
    cases url.path with
    | rootless text => rfl
    | rooted segments =>
      obtain ⟨front, isDirectory, -⟩ := Prefix.exists_asDirectory segments
      rw [isDirectory, Path.asDirectory, if_pos (by simp)]
  rw [asDirectory, asDirectory, path]

/-- A directory is read again from its own text, unless a label of its host is too long. -/
theorem parse_text_asDirectory (raw : String) (url : Url) (parsed : parse raw = .ok url)
    (hasRoot : url.isRootless = false) (noQuery : url.query = none)
    (noFragment : url.fragment = none) :
    parse url.asDirectory.text =
      if url.asDirectory.hasShortLabels then .ok url.asDirectory else .error .badDomain := by
  obtain ⟨built, isScheme⟩ := isBuilt_of_parse raw url parsed hasRoot
  exact (built.asDirectory noQuery noFragment).isNormal.parse_text isScheme

end Url

namespace Prefix

/-- What is stored for a URL: a directory that is read again as it is, unless a label of its host is
too long to be read. -/
structure IsNormalized (url : Url) (confines : Prefix) : Prop where
  hasRoot : confines.url.isRootless = false
  query : confines.url.query = none
  fragment : confines.url.fragment = none
  path : confines.url.path.write.getLast? = some '/'
  text : confines.url.text =
    if url.path.write.getLast? = some '/' then url.text else url.text ++ "/"
  again : ∀ field, ¬ confines.url.HasLongLabel → parse field confines.url.text = .ok confines
  refused : ∀ field, confines.url.HasLongLabel →
    parse field confines.url.text = .error (.badUrl field .badDomain)

theorem isNormalized_of_parse (raw : String) (url : Url) (parsed : Url.parse raw = .ok url)
    (hasRoot : url.isRootless = false) (noQuery : url.query = none)
    (noFragment : url.fragment = none) : IsNormalized url ⟨url.asDirectory⟩ := by
  have directory := isDirectory_of_parse "prefix" raw _
    (parse_of_usable "prefix" raw url parsed hasRoot noQuery noFragment)
  have reread := Url.parse_text_asDirectory raw url parsed hasRoot noQuery noFragment
  refine ⟨directory.hasRoot, directory.query, directory.fragment, ?path, ?text, ?again, ?refused⟩
  case path =>
    obtain ⟨front, isPath⟩ := directory.path
    rw [isPath, Path.write_rooted_append]
    exact List.getLast?_concat ..
  case text =>
    obtain ⟨built, -⟩ := Url.isBuilt_of_parse raw url parsed hasRoot
    have written := Url.write_asDirectory built (Url.isRead_of_parse raw url parsed) hasRoot noQuery
      noFragment
    simp only [Url.text, written]
    split
    · rfl
    · rw [String.ofList_append]
  case again =>
    intro field short
    rw [Url.hasLongLabel_iff, Bool.not_eq_false] at short
    rw [if_pos short] at reread
    have same := parse_of_usable field _ _ reread directory.hasRoot directory.query
      directory.fragment
    rwa [Url.asDirectory_asDirectory] at same
  case refused =>
    intro field long
    rw [Url.hasLongLabel_iff] at long
    rw [if_neg (by simp [long])] at reread
    rw [parse, reread]

/-- A text that is no URL is reported with its cause.  One whose URL has no root, or a query or a
fragment, be it empty, is reported as it was given.  Every other one is accepted, and what is stored is
its URL with a slash at the end of the path.  Nothing but a label that is too long keeps the text of
the prefix from being read again. -/
theorem parse_normalizes (field raw : String) :
    (∀ cause, Url.parse raw = .error cause → parse field raw = .error (.badUrl field cause)) ∧
    ∀ url, Url.parse raw = .ok url →
      (url.isRootless = true ∨ url.query ≠ none ∨ url.fragment ≠ none →
        parse field raw = .error (.unusableBase field raw)) ∧
      (url.isRootless = false → url.query = none → url.fragment = none →
        ∃ confines, parse field raw = .ok confines ∧ IsNormalized url confines) := by
  refine ⟨fun cause isCause => by rw [parse, isCause], fun url parsed => ⟨fun unusable => ?_, ?_⟩⟩
  · rw [parse, parsed]
    refine if_pos ?_
    simpa [Option.isSome_iff_ne_none, or_assoc] using unusable
  · intro hasRoot noQuery noFragment
    exact ⟨_, parse_of_usable field raw url parsed hasRoot noQuery noFragment,
      isNormalized_of_parse raw url parsed hasRoot noQuery noFragment⟩

/-- A prefix without a slash at its end, one with an empty query, and a text without a scheme. -/
theorem parse_normalizes_open :
    ∃ confines, parse "prefix" "HTTPS://[0::1]:443/api/../v2" = .ok confines ∧
      confines.url.text = "https://[::1]/v2/" ∧
      parse "again" confines.url.text = .ok confines ∧
      parse "prefix" "https://[::1]/v2?" = .error (.unusableBase "prefix" "https://[::1]/v2?") ∧
      parse "prefix" "v2" = .error (.badUrl "prefix" .relativeWithoutBase) := by
  let host : Host := .ipv6 ⟨[0, 0, 0, 0, 0, 0, 0, 1], rfl⟩
  let url : Url := ⟨"https", some ⟨"", none, host, none⟩, .rooted ["v2"], none, none⟩
  have parsed : Url.parse "HTTPS://[0::1]:443/api/../v2" = .ok url := by decide +kernel
  have marked : Url.parse "https://[::1]/v2?" = .ok { url with query := some "" } := by
    decide +kernel
  obtain ⟨confines, accepted, normalized⟩ :=
    ((parse_normalizes "prefix" "HTTPS://[0::1]:443/api/../v2").2 url parsed).2 rfl rfl rfl
  have isStored := parse_of_usable "prefix" _ url parsed rfl rfl rfl
  obtain rfl := Except.ok.inj (accepted.symm.trans isStored)
  have short : ¬ url.asDirectory.HasLongLabel := by
    rintro ⟨-, authority, name, isAuthority, isName, -⟩
    obtain rfl := Option.some.inj isAuthority
    cases isName
  refine ⟨_, accepted, normalized.text.trans (by decide +kernel), normalized.again _ short,
    ((parse_normalizes "prefix" "https://[::1]/v2?").2 _ marked).1 (.inr (.inl (by simp))),
    (parse_normalizes "prefix" "v2").1 _ (by decide +kernel)⟩

/-- A prefix is accepted whose own text is not: the host turns into a label that is too long. -/
theorem not_parse_text :
    ¬ ∀ (field raw : String) (confines : Prefix), parse field raw = .ok confines →
      parse field confines.url.text = .ok confines := by
  intro again
  obtain accepted := parse_of_usable "prefix" _ _ Url.parse_longUrl_eq rfl rfl rfl
  have normalized := isNormalized_of_parse _ _ Url.parse_longUrl_eq rfl rfl rfl
  have refused := normalized.refused "prefix" (Url.hasLongLabel_of_longLabel rfl rfl)
  exact nomatch (again _ _ _ accepted).symm.trans refused

end Prefix

end ConfinedHttp
