import ConfinedHttp.Proofs.HeaderGrouping
import ConfinedHttp.Proofs.Text.Base64Reading

namespace ConfinedHttp

/-- What is written in base 64 is visible. -/
theorem Base64.Encodes.visible {bytes : Bytes} {text : List Char} (encodes : Encodes bytes text) :
    ∀ character ∈ text, ' ' < character ∧ character < '\x7f' := by
  obtain ⟨digits, values, padding, -, rfl, each, -⟩ := encodes.written
  refine List.forall_mem_append.mpr ⟨?_, fun character inside => ?_⟩
  · clear encodes
    induction each with
    | nil => simp
    | cons isDigit _ inductionHypothesis =>
      exact List.forall_mem_cons.mpr ⟨⟨isDigit.visible.1, isDigit.visible.2.1⟩, inductionHypothesis⟩
  · rw [List.eq_of_mem_replicate inside]
    decide

/-- This function cuts a text at its first colon. -/
def cutAtColon (text : List Char) : Option (String × String) :=
  match text.dropWhile (· != ':') with
  | ':' :: rest => some (String.ofList (text.takeWhile (· != ':')), String.ofList rest)
  | _ => none

theorem cutAtColon_append (username password : String) (noColon : ':' ∉ username.toList) :
    cutAtColon (username ++ ":" ++ password).toList = some (username, password) := by
  have whole : (username ++ ":" ++ password).toList =
      username.toList ++ ':' :: password.toList := by simp
  obtain ⟨taken, dropped⟩ := takeWhile_dropWhile_append (· != ':') username.toList
    (':' :: password.toList)
    (fun character inside => bne_iff_ne.mpr fun isColon => noColon (isColon ▸ inside))
    (by rintro next ⟨⟩; decide)
  rw [cutAtColon, whole, taken, dropped]
  simp

namespace Credentials

open HeaderMap

theorem isName_authorization : IsName "Authorization" :=
  ⟨by decide, forall_mem_of_all _ (by decide), by decide⟩

/-- What is written in base 64 can stand in a header, whatever it stands for. -/
theorem isValue_basic (bytes : Bytes) :
    IsValue ("Basic " ++ String.ofList (Base64.encode bytes)) := by
  intro character inside
  rw [String.toList_append, String.toList_ofList (l := Base64.encode bytes)] at inside
  have visible (above : ' ' ≤ character) (below : character < '\x7f') :
      0x20 ≤ character.toNat ∧ character.toNat ≠ 0x7F := by
    have low : 0x20 ≤ character.toNat := above
    have high : character.toNat < 0x7F := below
    omega
  obtain scheme | written := List.mem_append.mp inside
  · have each : ∀ character ∈ "Basic ".toList, ' ' ≤ character ∧ character < '\x7f' :=
      forall_mem_of_all _ (by decide)
    exact .inr (visible (each character scheme).1 (each character scheme).2)
  · obtain ⟨above, below⟩ := (Base64.encodes_encode bytes).visible character written
    exact .inr (visible (le_of_lt above) below)

section Signing

variable {credentials : Credentials} {name value : String}
  (signs : credentials.header? = some (name, value))

include signs

theorem pairs_sign (headers : Multidict) :
    (credentials.sign headers).pairs = headers.notNamed name ++ [(name, value)] := by
  rw [sign_eq signs]
  rfl

/-- A valid header is never reported, so that what is reported is the first of the other headers that is
not valid. -/
theorem exists_first_invalid_of_sign (hash : String → Nat) (valid : IsHeader (name, value))
    (headers : Multidict) (offender : String)
    (reported : (credentials.sign headers).toHeaderMap hash = .error (.invalid offender)) :
    ∃ before header after, headers.notNamed name = before ++ header :: after ∧
      (∀ earlier ∈ before, IsHeader earlier) ∧ ¬ IsHeader header ∧ header.1 = offender := by
  obtain ⟨before, header, after, whole, earlier, invalid, rfl⟩ :=
    Multidict.exists_first_invalid hash reported
  rw [pairs_sign signs headers] at whole
  obtain rfl | ⟨others, last, rfl⟩ := after.eq_nil_or_concat'
  · obtain ⟨-, same⟩ := List.append_inj' whole rfl
    rw [← List.cons.inj same |>.1] at invalid
    exact absurd valid invalid
  · rw [← List.cons_append, ← List.append_assoc] at whole
    exact ⟨before, header, others, (List.append_inj' whole rfl).1, earlier, invalid, rfl⟩

end Signing

/-- A user name and a password are signed with a header that holds them in base 64.  It is read as
the bytes of the user name, a colon and the password, and a user name without a colon ends at the
first one.  The header goes over the wire, whatever the user name and the password are.  A header that is
reported when a request is signed is the first one of the request that is not valid, reported just as
well without it unless the others run out of room. -/
theorem header?_basic_readable (username password : String) :
    ∃ encoded, (basic username ⟨password⟩).header? =
        some ("Authorization", "Basic " ++ String.ofList encoded) ∧
      Base64.Encodes (textBytes (username ++ ":" ++ password)) encoded ∧
      Base64.decode? encoded = some (textBytes (username ++ ":" ++ password)) ∧
      (':' ∉ username.toList →
        ((Base64.decode? encoded).bind Utf8.decode?).bind cutAtColon =
          some (username, password)) ∧
      (∀ hash, ∃ map, (sign (basic username ⟨password⟩) .empty).toHeaderMap hash = .ok map ∧
        map.valuesOf "Authorization" = [textBytes ("Basic " ++ String.ofList encoded)]) ∧
      ∀ hash headers offender, (sign (basic username ⟨password⟩) headers).toHeaderMap hash =
          .error (.invalid offender) →
        let others : Multidict := ⟨headers.notNamed "Authorization"⟩
        (∃ before header after, others.pairs = before ++ header :: after ∧
          (∀ earlier ∈ before, IsHeader earlier) ∧ ¬ IsHeader header ∧ header.1 = offender) ∧
          (others.toHeaderMap hash ≠ .error .tooMany →
            others.toHeaderMap hash = .error (.invalid offender)) := by
  have signs : (basic username ⟨password⟩).header? = some ("Authorization",
      "Basic " ++ String.ofList (Base64.encode (textBytes (username ++ ":" ++ password)))) := rfl
  have read := Base64.decode?_encode (textBytes (username ++ ":" ++ password))
  have valid : IsHeader ("Authorization",
      "Basic " ++ String.ofList (Base64.encode (textBytes (username ++ ":" ++ password)))) :=
    ⟨isName_authorization, isValue_basic _⟩
  refine ⟨_, signs, Base64.encodes_encode _, read, fun noColon => ?_, fun hash => ?_,
    fun hash headers offender reported => ?_⟩
  · rw [read, Option.bind_some, textBytes, Utf8.decode_encode, Option.bind_some,
      cutAtColon_append username password noColon]
  · have pairs : (sign (basic username ⟨password⟩) .empty).pairs = [_] := pairs_sign signs .empty
    have fits : (sign (basic username ⟨password⟩) .empty).Fits hash :=
      Multidict.fits_of_few hash _ (by simp [Multidict.size, pairs])
    have taken := Multidict.toHeaderMap_of_isHeader hash fits (by simpa [pairs] using valid)
    exact ⟨_, taken, valuesOf_sign signs hash .empty _ taken⟩
  · have first := exists_first_invalid_of_sign signs hash valid headers offender reported
    refine ⟨first, fun room => ?_⟩
    obtain ⟨before, header, after, whole, earlier, invalid, rfl⟩ := first
    exact Multidict.toHeaderMap_of_room hash before after header whole earlier invalid room

/-- A letter past ASCII, a colon in the password and a line break in it, and a request with a space
in the name of one of its headers. -/
theorem header?_basic_readable_marked :
    let account := basic "ü" ⟨"a:b\n"⟩
    let spaced : Multidict := ⟨[("authorization", "forged"), ("bad name", "1")]⟩
    let others : Multidict := ⟨spaced.notNamed "Authorization"⟩
    let hash := HeaderTable.nameHash
    ':' ∉ "ü".toList ∧
      (∃ encoded, account.header? = some ("Authorization", "Basic " ++ String.ofList encoded) ∧
        "Basic " ++ String.ofList encoded = "Basic w7w6YTpiCg==" ∧
        ((Base64.decode? encoded).bind Utf8.decode?).bind cutAtColon = some ("ü", "a:b\n")) ∧
      (account.sign spaced).toHeaderMap hash = .error (.invalid "bad name") ∧
      others.toHeaderMap hash ≠ .error .tooMany ∧
      others.toHeaderMap hash = .error (.invalid "bad name") := by
  intro account spaced others hash
  have noColon : ':' ∉ "ü".toList := by decide
  have written : account.header? = some ("Authorization", "Basic w7w6YTpiCg==") := by
    decide +kernel
  have reported : (account.sign spaced).toHeaderMap hash = .error (.invalid "bad name") := by
    decide +kernel
  have room : others.toHeaderMap hash ≠ .error .tooMany :=
    Multidict.toHeaderMap_ne_tooMany hash (Multidict.fits_of_few hash others (by decide))
  obtain ⟨encoded, signs, -, -, split, -, reports⟩ := header?_basic_readable "ü" "a:b\n"
  have same : "Basic " ++ String.ofList encoded = "Basic w7w6YTpiCg==" :=
    (Prod.mk.inj (Option.some.inj (signs.symm.trans written))).2
  exact ⟨noColon, ⟨encoded, signs, same, split noColon⟩, reported, room,
    (reports hash spaced _ reported).2 room⟩

end Credentials

end ConfinedHttp
