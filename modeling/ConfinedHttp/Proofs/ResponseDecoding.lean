import ConfinedHttp.Proofs.Signing
import ConfinedHttp.Proofs.Text.Splitting
import ConfinedHttp.Session
import Mathlib.Data.List.TakeWhile
import Mathlib.Logic.Relation

namespace ConfinedHttp

/-- Trimming removes what stands around a text with other characters at both ends. -/
theorem trimEnds_append (removed : Char → Bool) (before written behind : List Char)
    (allBefore : ∀ character ∈ before, removed character = true)
    (allBehind : ∀ character ∈ behind, removed character = true)
    (first : ∀ character ∈ written.head?, removed character = false)
    (last : ∀ character ∈ written.getLast?, removed character = false) :
    trimEnds removed (before ++ (written ++ behind)) = written := by
  unfold trimEnds
  rw [List.dropWhile_append_of_pos allBefore]
  cases written with
  | nil =>
    have nothing : behind.dropWhile removed = [] := List.dropWhile_eq_nil_iff.mpr allBehind
    simp [nothing]
  | cons character others =>
    have kept : removed character = false := first character rfl
    rw [List.cons_append, List.dropWhile_cons_of_neg (by simp [kept]), ← List.cons_append,
      List.reverse_append]
    have cut := (takeWhile_dropWhile_append removed behind.reverse (character :: others).reverse
      (fun other inside => allBehind other (List.mem_reverse.mp inside))
      (by rw [List.head?_reverse]; exact last)).2
    rw [cut, List.reverse_reverse]

/-- Whatever stands around the trimmed text is removed. -/
theorem exists_trimEnds_append (removed : Char → Bool) (text : List Char) :
    ∃ before behind, text = before ++ (trimEnds removed text ++ behind) ∧
      (∀ character ∈ before, removed character = true) ∧
      (∀ character ∈ behind, removed character = true) ∧
      (∀ character ∈ (trimEnds removed text).head?, removed character = false) ∧
      ∀ character ∈ (trimEnds removed text).getLast?, removed character = false := by
  let kept := text.dropWhile removed
  have whole : trimEnds removed text ++ (kept.reverse.takeWhile removed).reverse = kept := by
    unfold trimEnds
    rw [← List.reverse_append, List.takeWhile_append_dropWhile, List.reverse_reverse]
  refine ⟨text.takeWhile removed, (kept.reverse.takeWhile removed).reverse, ?_, ?_, ?_, ?_, ?_⟩
  · rw [whole, List.takeWhile_append_dropWhile]
  · exact fun character inside => List.mem_takeWhile_imp inside
  · exact fun character inside => List.mem_takeWhile_imp (List.mem_reverse.mp inside)
  · intro character isFirst
    have inKept : kept.head? = some character := by
      rw [← whole, List.head?_append, Option.mem_def.mp isFirst, Option.some_or]
    have stops := List.head?_dropWhile_not removed text
    rw [show (text.dropWhile removed).head? = some character from inKept] at stops
    exact stops
  · intro character isLast
    have stops := List.head?_dropWhile_not removed kept.reverse
    rw [Option.mem_def, trimEnds, List.getLast?_reverse] at isLast
    rw [isLast] at stops
    exact stops

namespace Response

/-- The parts of a text that declares a content type: blanks around the media type, and the
parameters from the first semicolon on. -/
structure DeclaresParts (declared : String) (before written behind parameters : List Char) :
    Prop where
  whole : declared.toList = before ++ (written ++ behind) ++ parameters
  blankBefore : ∀ character ∈ before, isBlank character = true
  blankBehind : ∀ character ∈ behind, isBlank character = true
  first : ∀ character ∈ written.head?, isBlank character = false
  last : ∀ character ∈ written.getLast?, isBlank character = false
  unmarked : ';' ∉ written
  marked : ∀ character ∈ parameters.head?, character = ';'

/-- A text declares a media type, which is given in small letters. -/
def Declares (declared : String) (kind : List Char) : Prop :=
  ∃ before written behind parameters, DeclaresParts declared before written behind parameters ∧
    written.map Char.toLower = kind

theorem declares_iff (declared : String) (kind : List Char) :
    Declares declared kind ↔ mediaType declared = kind := by
  constructor
  · rintro ⟨before, written, behind, parameters, parts, rfl⟩
    have clean : ∀ character ∈ before ++ (written ++ behind), (character != ';') = true := by
      have notBlank : isBlank ';' = false := by decide
      intro character inside
      rw [bne_iff_ne]
      rintro rfl
      simp only [List.mem_append] at inside
      obtain inBefore | inWritten | inBehind := inside
      · exact absurd (parts.blankBefore _ inBefore) (by simp [notBlank])
      · exact parts.unmarked inWritten
      · exact absurd (parts.blankBehind _ inBehind) (by simp [notBlank])
    have cut := (takeWhile_dropWhile_append (· != ';') _ parameters clean fun next isNext => by
      simp [parts.marked next isNext]).1
    rw [mediaType, parts.whole, cut, trimEnds_append isBlank before written behind
      parts.blankBefore parts.blankBehind parts.first parts.last]
  · rintro rfl
    obtain ⟨before, behind, whole, blankBefore, blankBehind, first, last⟩ :=
      exists_trimEnds_append isBlank (declared.toList.takeWhile (· != ';'))
    refine ⟨before, _, behind, declared.toList.dropWhile (· != ';'),
      ⟨?_, blankBefore, blankBehind, first, last, ?_, ?_⟩, rfl⟩
    · rw [← whole, List.takeWhile_append_dropWhile]
    · intro inside
      have within : ';' ∈ declared.toList.takeWhile (· != ';') := by
        rw [whole]
        exact List.mem_append_right _ (List.mem_append_left _ inside)
      exact absurd (List.mem_takeWhile_imp within) (by decide)
    · intro character isFirst
      have stops := List.head?_dropWhile_not (· != ';') declared.toList
      rw [Option.mem_def.mp isFirst] at stops
      simpa using stops

/-- The media types of JSON and of formats that are built on it. -/
def IsJsonKind (kind : List Char) : Prop :=
  kind = "application/json".toList ∨ "+json".toList <:+ kind

theorem isJson_iff (declared : String) : isJson declared = true ↔ IsJsonKind (mediaType declared) := by
  rw [isJson, IsJsonKind, Bool.or_eq_true, beq_iff_eq, List.isSuffixOf_iff_suffix]

/-- The first text under the name of the content type, in whatever case the name is written. -/
def firstDeclared? (headers : Multidict) : Option String :=
  (headers.named "Content-Type").head?.map (·.2)

/-- A text that declares another format than JSON. -/
def DeclaresOther (declared : String) : Prop := ∃ kind, Declares declared kind ∧ ¬ IsJsonKind kind

theorem declaresOther_iff (declared : String) : DeclaresOther declared ↔ isJson declared = false := by
  simp only [DeclaresOther, declares_iff, exists_eq_left', ← isJson_iff, Bool.not_eq_true]

theorem checkContentType_eq (headers : Multidict) :
    checkContentType headers =
      match firstDeclared? headers with
      | some declared => if isJson declared then .ok () else .error (.notJson declared)
      | none => .ok () := by
  have sameName : Ascii.lower "content-type" = Ascii.lower "Content-Type" := by decide
  have first : headers.getName? "content-type" = firstDeclared? headers := by
    simp only [Multidict.getName?, firstDeclared?, Multidict.named, Ascii.sameName, sameName,
      List.head?_filter]
  cases declared : firstDeclared? headers <;> simp only [checkContentType, first, declared]

/-- A response is refused for what it declares first if that is not JSON, and else it is
accepted. -/
theorem checkContentType_cases (headers : Multidict) :
    (∃ declared, firstDeclared? headers = some declared ∧ DeclaresOther declared ∧
        checkContentType headers = .error (.notJson declared)) ∨
      (∀ declared, firstDeclared? headers = some declared → ¬ DeclaresOther declared) ∧
        checkContentType headers = .ok () := by
  simp only [declaresOther_iff]
  rw [checkContentType_eq]
  cases firstDeclared? headers with
  | none => simp
  | some declared => cases json : isJson declared <;> simp [json]

/-- Decoding a body never finds fault with the content type. -/
theorem decodeBody_ne_notJson {α : Type} (status : Nat) (decoder : Json.Decoder α) (body : Bytes)
    (declared : String) : decodeBody status decoder body ≠ .error (.notJson declared) := by
  unfold decodeBody
  split
  · simp
  · split <;> simp

section Variation

/-- Two texts declare the same media type when they differ at most in its case, in the blanks around
it and in the parameters. -/
def SameMediaType (left right : String) : Prop := ∃ kind, Declares left kind ∧ Declares right kind

/-- One difference between lists of headers that decoding does not show: the case of a name, the case
of the media type with the blanks around it and its parameters, or a further content type. -/
inductive Varies : List (String × String) → List (String × String) → Prop where
  | name (before after : List (String × String)) (left right value : String)
      (same : Ascii.sameName left right = true) :
      Varies (before ++ (left, value) :: after) (before ++ (right, value) :: after)
  | declared (before after : List (String × String)) (name left right : String)
      (isType : Ascii.sameName name "Content-Type" = true) (same : SameMediaType left right) :
      Varies (before ++ (name, left) :: after) (before ++ (name, right) :: after)
  | later (before after : List (String × String)) (name value : String)
      (isType : Ascii.sameName name "Content-Type" = true)
      (notFirst : ∃ header ∈ before, Ascii.sameName header.1 "Content-Type" = true) :
      Varies (before ++ after) (before ++ (name, value) :: after)

/-- A difference that does not show leaves the media type as it is. -/
theorem Varies.mediaType_eq {left right : List (String × String)} (varies : Varies left right) :
    (firstDeclared? ⟨left⟩).map mediaType = (firstDeclared? ⟨right⟩).map mediaType := by
  simp only [firstDeclared?, Multidict.named, List.head?_filter, Option.map_map]
  cases varies with
  | name before after left right value same =>
    have same : Ascii.lower left = Ascii.lower right := by simpa [Ascii.sameName] using same
    simp only [List.find?_append, List.find?_cons, Ascii.sameName, same]
    split
    · cases before.find? _ <;> rfl
    · rfl
  | declared before after name left right isType same =>
    obtain ⟨kind, declaresLeft, declaresRight⟩ := same
    rw [declares_iff] at declaresLeft declaresRight
    simp only [List.find?_append, List.find?_cons, isType]
    cases before.find? _ <;> simp [declaresLeft, declaresRight]
  | later before after name value isType notFirst =>
    obtain ⟨header, inside, isFirst⟩ := notFirst
    simp only [List.find?_append]
    cases found : before.find? (fun pair => Ascii.sameName pair.1 "Content-Type") with
    | none => exact absurd isFirst (by simpa using List.find?_eq_none.mp found header inside)
    | some first => rfl

/-- Differences that do not show leave the media type as it is, however many they are. -/
theorem mediaType_eq_of_eqvGen {left right : List (String × String)}
    (varies : Relation.EqvGen Varies left right) :
    (firstDeclared? ⟨left⟩).map mediaType = (firstDeclared? ⟨right⟩).map mediaType := by
  induction varies with
  | rel left right one => exact one.mediaType_eq
  | refl => rfl
  | symm left right _ inductionHypothesis => exact inductionHypothesis.symm
  | trans left middle right _ _ first second => exact first.trans second

/-- Headers of the same media type are accepted together. -/
theorem checkContentType_congr (left right : Multidict)
    (same : (firstDeclared? left).map mediaType = (firstDeclared? right).map mediaType)
    (accepted : checkContentType left = .ok ()) : checkContentType right = .ok () := by
  rw [checkContentType_eq] at accepted ⊢
  cases isLeft : firstDeclared? left with
  | none =>
    have isRight : firstDeclared? right = none := by
      simpa [isLeft] using same.symm
    rw [isRight]
  | some declared =>
    obtain ⟨other, isRight, sameKind⟩ : ∃ other, firstDeclared? right = some other ∧
        mediaType other = mediaType declared := by
      simpa [isLeft] using same.symm
    have sameJson : isJson other = isJson declared := by
      rw [isJson, isJson, sameKind]
    rw [isLeft] at accepted
    rw [isRight]
    simpa [sameJson] using accepted

end Variation

section Decode

variable {α : Type} (decoder : Json.Decoder α) (response : Response)

/-- A response that is refused gives the exchange back unread. -/
theorem decode_of_refused (declared : String)
    (refused : checkContentType response.exchange.headers = .error (.notJson declared)) :
    response.decode decoder = .error (.decode (.notJson declared)) ∧ response.readsBody = false := by
  constructor
  · rw [decode, refused]
  · rw [readsBody, refused]

/-- A response that is accepted is read, and what was read is decoded. -/
theorem decode_of_accepted (accepted : checkContentType response.exchange.headers = .ok ()) :
    response.readsBody = true ∧
      response.decode decoder =
        match response.exchange.body.read response.limit with
        | .error cause => .error (.transport cause)
        | .ok bytes => (decodeBody response.exchange.status decoder bytes).mapError .decode := by
  constructor
  · rw [readsBody, accepted]
  · cases read : response.exchange.body.read response.limit <;> simp only [decode, accepted, read]

/-- An accepted response does not fail for its content type. -/
theorem decode_ne_notJson (accepted : checkContentType response.exchange.headers = .ok ())
    (declared : String) : response.decode decoder ≠ .error (.decode (.notJson declared)) := by
  rw [(decode_of_accepted decoder response accepted).2]
  cases response.exchange.body.read response.limit with
  | error cause => simp
  | ok bytes =>
    show (decodeBody response.exchange.status decoder bytes).mapError Error.decode ≠ _
    have never := decodeBody_ne_notJson response.exchange.status decoder bytes declared
    cases decoded : decodeBody response.exchange.status decoder bytes with
    | ok value => simp [Except.mapError]
    | error cause =>
      rw [decoded] at never
      simpa [Except.mapError] using never

/-- Decoding fails for the content type exactly when the first header under that name, in any case,
declares another format, and then the body is not read.  Otherwise the body is read.  A failure of
reading is the result as it is, and else the bytes are decoded with the status of the response.
Differences in the case of header names or of the media type, in blanks, parameters or later content
types do not change the result of a response that is accepted. -/
theorem decode_by_contentType :
    (∀ declared, response.decode decoder = .error (.decode (.notJson declared)) ↔
      firstDeclared? response.exchange.headers = some declared ∧ DeclaresOther declared) ∧
    (∀ declared, response.decode decoder = .error (.decode (.notJson declared)) →
      (∀ call, Session.decodeEvents call response = [.released call]) ∧
        ∀ body limit, decode decoder ⟨{ response.exchange with body }, limit⟩ =
          response.decode decoder) ∧
    ((∀ declared, response.decode decoder ≠ .error (.decode (.notJson declared))) →
      (∀ call, Session.decodeEvents call response = [.read call, .released call]) ∧
        (response.decode decoder =
          match response.exchange.body.read response.limit with
          | .error cause => .error (.transport cause)
          | .ok bytes => (decodeBody response.exchange.status decoder bytes).mapError .decode) ∧
        ∀ headers, Relation.EqvGen Varies response.exchange.headers.pairs headers →
          decode decoder { response with exchange := { response.exchange with headers := ⟨headers⟩ } } =
            response.decode decoder) := by
  obtain ⟨declared, isFirst, isOther, refused⟩ | ⟨noOther, accepted⟩ :=
    checkContentType_cases response.exchange.headers
  · obtain ⟨fails, unread⟩ := decode_of_refused decoder response declared refused
    refine ⟨fun other => ?_, fun other _ => ⟨fun call => ?_, fun body limit => ?_⟩, fun never => ?_⟩
    · rw [fails, isFirst]
      constructor
      · intro same
        obtain rfl : declared = other := by simpa using same
        exact ⟨rfl, isOther⟩
      · rintro ⟨same, -⟩
        rw [Option.some.inj same]
    · rw [Session.decodeEvents, unread]
      rfl
    · rw [fails]
      exact (decode_of_refused decoder ⟨{ response.exchange with body }, limit⟩ declared refused).1
    · exact absurd fails (never declared)
  · obtain ⟨isRead, result⟩ := decode_of_accepted decoder response accepted
    have never := decode_ne_notJson decoder response accepted
    refine ⟨fun other => ?_, fun other fails => absurd fails (never other), fun _ => ⟨fun call => ?_,
      result, fun headers varies => ?_⟩⟩
    · exact iff_of_false (never other) fun ⟨isFirst, isOther⟩ => noOther other isFirst isOther
    · rw [Session.decodeEvents, isRead]
      rfl
    · have alsoAccepted := checkContentType_congr response.exchange.headers ⟨headers⟩
        (mediaType_eq_of_eqvGen varies) accepted
      rw [result]
      exact (decode_of_accepted decoder
        { response with exchange := { response.exchange with headers := ⟨headers⟩ } }
        alsoAccepted).2

end Decode

/-- Letters, blanks, a parameter and a second content type do not show. -/
theorem decode_by_contentType_varied :
    let response (headers : List (String × String)) : Response :=
      ⟨⟨200, ⟨headers⟩, .whole (textBytes "[]")⟩, 8⟩
    let headers := [("CONTENT-TYPE", " Application/JSON ;q=1"), ("content-type", "text/html")]
    Relation.EqvGen Varies headers [("Content-Type", "application/json")] ∧
      (response [("Content-Type", "application/json")]).decode Json.Decoder.any =
        (response headers).decode Json.Decoder.any := by
  intro response headers
  have single : Varies [("CONTENT-TYPE", " Application/JSON ;q=1")] headers :=
    .later [("CONTENT-TYPE", " Application/JSON ;q=1")] [] _ _ (by decide) ⟨_, List.mem_cons_self,
      by decide⟩
  have renamed : Varies [("CONTENT-TYPE", " Application/JSON ;q=1")]
      [("Content-Type", " Application/JSON ;q=1")] := .name [] [] _ _ _ (by decide)
  have plain : Varies [("Content-Type", " Application/JSON ;q=1")]
      [("Content-Type", "application/json")] :=
    .declared [] [] _ _ _ (by decide) ⟨"application/json".toList, (declares_iff _ _).mpr (by decide),
      (declares_iff _ _).mpr (by decide)⟩
  have varies : Relation.EqvGen Varies headers [("Content-Type", "application/json")] :=
    ((Relation.EqvGen.rel _ _ single).symm.trans _ _ _ (.rel _ _ renamed)).trans _ _ _
      (.rel _ _ plain)
  have accepted := decode_ne_notJson Json.Decoder.any (response headers) (by decide)
  exact ⟨varies, ((decode_by_contentType Json.Decoder.any (response headers)).2.2 accepted).2.2 _
    varies⟩

end Response

end ConfinedHttp
