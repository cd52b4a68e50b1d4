import ConfinedHttp.Oauth.TokenClient
import ConfinedHttp.Proofs.Oauth.Authorization
import ConfinedHttp.Proofs.Url.DirectoryRereading

namespace ConfinedHttp

namespace Segments

/-- The segments of the token endpoint are put on every path as they are. -/
theorem walk_tokenPath (kind : SchemeKind) (stack : List String) :
    walk kind stack (splitAt kind.isSlash Oauth.tokenPath.toList) = stack ++ ["oauth2", "token"] := by
  have cut : splitAt kind.isSlash Oauth.tokenPath.toList =
      ["oauth2", "token"].map String.toList := by
    cases kind <;> rfl
  have written : ∀ word ∈ ["oauth2", "token"], IsSettled kind word ∧ escape kind word.toList = word := by
    have plain : ∀ word ∈ ["oauth2", "token"],
        ('/' ∉ word.toList ∧ '\\' ∉ word.toList) ∧
          isDot word.toList = false ∧ isDoubleDot word.toList = false ∧
          Percent.encodeText Percent.inPath word.toList = word := by
      decide
    intro word inside
    obtain ⟨⟨noSlash, noBackslash⟩, notDot, notDoubleDot, same⟩ := plain word inside
    have settled := isSettled_encodeText kind word.toList
      (fun character within => by
        have notSlash : character ≠ '/' := fun equal => noSlash (equal ▸ within)
        have notBackslash : character ≠ '\\' := fun equal => noBackslash (equal ▸ within)
        simp [SchemeKind.isSlash, notSlash, notBackslash]) notDot notDoubleDot
    refine ⟨same ▸ settled, ?_⟩
    obtain rfl | rfl : word = "oauth2" ∨ word = "token" := by simpa using inside
    all_goals cases kind <;> rfl
  rw [cut, walk_of_isSettled kind _ written]

end Segments

namespace Prefix

/-- In a file, no empty segment stands before the others of a prefix. -/
theorem filled_of_parse (field raw : String) (confines : Prefix)
    (accepted : parse field raw = .ok confines) (isFile : confines.url.scheme = "file")
    (first : String) (rest : List String)
    (isPath : confines.url.path = .rooted (first :: rest ++ [""])) : first ≠ "" := by
  obtain ⟨url, parsed, hasRoot, -, -, rfl⟩ := exists_of_parse_eq_ok field raw confines accepted
  obtain ⟨text, path⟩ := (Url.isBuilt_of_parse raw url parsed hasRoot).1.isNormal.filed isFile
  simp only [Url.asDirectory, path, Path.asDirectory, Segments.read, if_true] at isPath
  obtain empty | ⟨other, others, filled, equal⟩ := Segments.withoutLeadingEmpty_cases
    (Segments.walk .file [] (splitAt SchemeKind.file.isSlash text))
  · rw [empty] at isPath
    simp at isPath
  · rw [equal] at isPath
    split at isPath
    · obtain ⟨rfl, -⟩ := List.cons.inj (Path.rooted.inj isPath)
      exact filled
    · obtain ⟨rfl, -⟩ := List.cons.inj (Path.rooted.inj isPath)
      exact filled

/-- The token endpoint below a prefix stands behind the text of the prefix. -/
theorem join_tokenPath (field raw : String) (confines : Prefix)
    (parsed : parse field raw = .ok confines) :
    ∃ url, confines.url.join Oauth.tokenPath = .ok url ∧
      url.text = confines.url.text ++ Oauth.tokenPath := by
  have directory := isDirectory_of_parse field raw confines parsed
  obtain ⟨front, isPath⟩ := directory.path
  have parent : confines.url.parentSegments = front := by
    have notDrive : Segments.isNormalDrive [] = false := rfl
    simp [Url.parentSegments, isPath, Path.segments, notDrive]
  have read : Segments.read (SchemeKind.of confines.url.scheme) front Oauth.tokenPath.toList =
      front ++ ["oauth2", "token"] := by
    rw [Segments.read, Segments.walk_tokenPath]
    split
    case isTrue isFile =>
      cases front with
      | nil => rfl
      | cons first rest =>
        exact Segments.withoutLeadingEmpty_cons _ _ (filled_of_parse field raw confines parsed
          ((SchemeKind.of_eq_file _).mp isFile) first rest isPath)
    case isFalse => rfl
  have noDrive : ¬ (confines.url.scheme = "file" ∧
      Segments.startsWithDrive Oauth.tokenPath.toList = true) := by
    rintro ⟨-, drive⟩
    exact absurd drive (by decide)
  have joined : confines.url.join Oauth.tokenPath =
      .ok { confines.url with path := .rooted (front ++ ["oauth2", "token"]) } := by
    rw [Url.join_of_read_relative directory.hasRoot Oauth.tokenPath
      (.path Oauth.tokenPath.toList) rfl, Url.joinRelative, Url.joinPath, if_neg noDrive, parent]
    have whole : Oauth.tokenPath.toList.takeWhile (!Url.endsPath ·) = Oauth.tokenPath.toList := by
      decide
    have nothing : Oauth.tokenPath.toList.dropWhile (!Url.endsPath ·) = [] := by decide
    rw [Url.withPath, whole, nothing, read]
    rw [Url.withTail]
    simp [Url.readQuery, Url.readFragment, directory.query, directory.fragment]
  refine ⟨_, joined, ?_⟩
  have written : (Path.rooted (front ++ ["oauth2", "token"])).write =
      confines.url.path.write ++ Oauth.tokenPath.toList := by
    rw [isPath, Path.write_rooted_append, Path.write_rooted_append, List.append_assoc]
    rfl
  have apart : ['/', '/'].isPrefixOf (confines.url.path.write ++ Oauth.tokenPath.toList) =
      ['/', '/'].isPrefixOf confines.url.path.write := by
    rw [isPath, Path.write_rooted_append]
    rcases (Path.rooted front).write with _ | ⟨first, _ | ⟨second, others⟩⟩ <;> rfl
  have authority : Url.writeAuthority
      { confines.url with path := .rooted (front ++ ["oauth2", "token"]) } =
      confines.url.writeAuthority := by
    simp only [Url.writeAuthority, written, apart]
  have noTail : confines.url.tail = [] := by
    simp [Url.tail, Url.writeMarked, directory.query, directory.fragment]
  rw [← String.toList_inj, Url.text, Url.text, String.toList_append, String.toList_ofList,
    String.toList_ofList, Url.write_eq, Url.write_eq, authority, written, noTail]
  have sameTail : Url.tail { confines.url with path := .rooted (front ++ ["oauth2", "token"]) } =
      [] := noTail
  simp [sameTail]

end Prefix

namespace Oauth.TokenClient

variable {Source : Type} [Readable Source]

/-- How a call ends once the transport has answered.  An error of the transport is the result as it
is.  A status outside success is reported whatever happens to the body.  With success, an error of
reading the body is the result, and otherwise the body is decoded, whatever content type it has. -/
inductive EndsWith (limit : Nat) : AnswerOf Source → Completion Json.Value → Prop where
  | cancelled : EndsWith limit .pending .cancelled
  | brokenDown : EndsWith limit .brokenDown .brokenDown
  | failed (cause : Error) : EndsWith limit (.failed cause) (.finished (.error cause))
  | refused (exchange : ExchangeOf Source) (bytes : Bytes)
      (outside : exchange.status < 200 ∨ 299 < exchange.status)
      (read : Readable.read limit exchange.body = .ok bytes) :
      EndsWith limit (.exchange exchange)
        (.finished (.error (.refused exchange.status (lossyText bytes))))
  | refusedUnread (exchange : ExchangeOf Source) (cause : Error)
      (outside : exchange.status < 200 ∨ 299 < exchange.status)
      (unread : Readable.read limit exchange.body = .error cause) :
      EndsWith limit (.exchange exchange) (.finished (.error (.refused exchange.status "")))
  | unread (exchange : ExchangeOf Source) (cause : Error)
      (within : 200 ≤ exchange.status ∧ exchange.status ≤ 299)
      (unread : Readable.read limit exchange.body = .error cause) :
      EndsWith limit (.exchange exchange) (.finished (.error cause))
  | decoded (exchange : ExchangeOf Source) (bytes : Bytes)
      (within : 200 ≤ exchange.status ∧ exchange.status ≤ 299)
      (read : Readable.read limit exchange.body = .ok bytes) :
      EndsWith limit (.exchange exchange)
        (.finished ((decodeBody exchange.status Json.Decoder.any bytes).mapError .decode))

theorem endsWith_readAnswer (client : TokenClient) (exchange : ExchangeOf Source) :
    EndsWith client.limit (.exchange exchange) (.finished (client.readAnswer exchange)) := by
  have nothing : lossyText [] = "" := by simp [lossyText, Utf8.decodeLossy, Utf8.pieces]
  rw [readAnswer]
  cases read : Readable.read client.limit exchange.body with
  | error cause =>
    split
    case isTrue success =>
      simp only [ExchangeOf.isSuccess, Bool.and_eq_true, decide_eq_true_eq] at success
      exact .unread exchange cause (by omega) read
    case isFalse refused =>
      simp only [ExchangeOf.isSuccess, Bool.and_eq_true, decide_eq_true_eq] at refused
      have ends := EndsWith.refusedUnread exchange cause (by omega) read
      rwa [← nothing] at ends
  | ok bytes =>
    split
    case isTrue success =>
      simp only [ExchangeOf.isSuccess, Bool.and_eq_true, decide_eq_true_eq] at success
      exact .decoded exchange bytes (by omega) read
    case isFalse refused =>
      simp only [ExchangeOf.isSuccess, Bool.and_eq_true, decide_eq_true_eq] at refused
      exact .refused exchange bytes (by omega) read

/-- A call sends one request to the token endpoint, whose body is read as exactly the given pairs,
and ends as the answer says. -/
structure PostsForm (place : Url) (limit : Nat) (transport : Outbound → AnswerOf Source)
    (pairs : List (String × String)) (trace : Trace Json.Value) : Prop where
  once : ∃ outbound, trace.sent = [outbound] ∧
    outbound.method = .post ∧
    outbound.url.text = place.text ++ "oauth2/token" ∧
    outbound.headers.pairs =
      [("Content-Type", "application/x-www-form-urlencoded"), ("Accept", "application/json")] ∧
    outbound.body.map Form.decode = some pairs ∧
    EndsWith limit (transport outbound) trace.completion

/-- Whatever the answer is, one request is sent. -/
theorem sent_post (client : TokenClient) (call : Nat) (span : Span) (transport : Outbound → AnswerOf Source)
    (form : Multidict) : (client.post call span transport form).sent = [client.prepare form] := by
  rw [post]
  cases transport (client.prepare form) <;> rfl

/-- The body of a request is read as the pairs of its form. -/
theorem decode_prepare (client : TokenClient) (form : Multidict) :
    (client.prepare form).body.map Form.decode = some form.pairs := by
  simp only [prepare, Multidict.queryString, textBytes, String.toList_ofList, Option.map_some,
    Form.decode_encode]

theorem postsForm_post (client : TokenClient) (place : Url) (call : Nat) (span : Span)
    (transport : Outbound → AnswerOf Source) (form : Multidict)
    (endpoint : client.url.text = place.text ++ tokenPath) :
    PostsForm place client.limit transport form.pairs (client.post call span transport form) := by
  refine ⟨client.prepare form, client.sent_post call span transport form, rfl, endpoint, rfl,
    client.decode_prepare form, ?_⟩
  rw [post]
  cases transport (client.prepare form) with
  | exchange exchange => exact client.endsWith_readAnswer exchange
  | failed cause => exact .failed cause
  | pending => exact .cancelled
  | brokenDown => exact .brokenDown

/-- Every base that is accepted gives a client.  A redirect URL that is refused is reported, and
nothing is sent.  Otherwise exchanging a code sends one form of six pairs, and refreshing sends one
form of four, to the token endpoint behind the text of the base.  No text of a client, a code or a
token adds, drops or changes another pair. -/
theorem postsForm_of_accepted (base clientId clientSecret : String) (confines : Prefix)
    (accepted : Prefix.parse "token endpoint" base = .ok confines) :
    ∃ client, make base clientId clientSecret = .ok client ∧
      client.withLimit defaultLimit = client ∧
      ∀ {Source : Type} [Readable Source] limit call (transport : Outbound → AnswerOf Source),
        (∀ redirect code cause, normalizedUrl "redirect" redirect = .error cause →
          let trace := (client.withLimit limit).exchangeCode call transport redirect code
          trace.completion = .finished (.error (.input cause)) ∧ trace.sent = [] ∧
            trace.exchanges = []) ∧
        (∀ redirect code url, normalizedUrl "redirect" redirect = .ok url →
          Url.parse redirect = .ok url ∧
            PostsForm confines.url limit transport
              [("redirect_uri", url.text), ("client_id", clientId),
                ("client_secret", clientSecret), ("grant_type", "authorization_code"),
                ("response_type", "code"), ("code", code)]
              ((client.withLimit limit).exchangeCode call transport redirect code)) ∧
        ∀ refreshToken,
          PostsForm confines.url limit transport
            [("client_id", clientId), ("client_secret", clientSecret),
              ("grant_type", "refresh_token"), ("refresh_token", refreshToken)]
            ((client.withLimit limit).refresh call transport refreshToken) := by
  obtain ⟨url, joined, endpoint⟩ := Prefix.join_tokenPath _ _ _ accepted
  have made : make base clientId clientSecret =
      .ok ⟨url, clientId, ⟨clientSecret⟩, defaultLimit⟩ := by
    rw [make, accepted]
    simp only [joined]
  refine ⟨_, made, rfl, fun {_} _ limit call transport => ⟨?_, ?_, ?_⟩⟩
  · intro redirect code cause refused
    rw [exchangeCode, refused]
    exact ⟨rfl, rfl, rfl⟩
  · intro redirect code back isBack
    have parsed := ((absoluteUrl_eq_ok_iff ..).mp ((normalizedUrl_eq_ok_iff ..).mp isBack).1).1
    refine ⟨parsed, ?_⟩
    rw [exchangeCode, isBack]
    exact postsForm_post (withLimit ⟨url, clientId, ⟨clientSecret⟩, defaultLimit⟩ limit) _ call _
      transport _ endpoint
  · intro refreshToken
    exact postsForm_post (withLimit ⟨url, clientId, ⟨clientSecret⟩, defaultLimit⟩ limit) _ call _
      transport _ endpoint

/-- Texts that look like parameters stay in their places, and a refusal whose body is too large is
still reported. -/
theorem postsForm_of_accepted_marked :
    let transport (_ : Outbound) : Answer := .exchange ⟨503, ⟨[]⟩, ⟨some 9, [], .clean⟩⟩
    ∃ client, make "https://[::1]:8443/tenant" "id&code=1" "s=+%26" = .ok client ∧
      ∃ outbound,
        let trace := (client.withLimit 8).exchangeCode 0 transport "HTTPS://[::1]:443/back"
          "c&grant_type=none"
        trace.sent = [outbound] ∧
          outbound.url.text = "https://[::1]:8443/tenant/oauth2/token" ∧
          outbound.body.map Form.decode = some
            [("redirect_uri", "https://[::1]/back"), ("client_id", "id&code=1"),
              ("client_secret", "s=+%26"), ("grant_type", "authorization_code"),
              ("response_type", "code"), ("code", "c&grant_type=none")] ∧
          trace.completion = .finished (.error (.refused 503 "")) := by
  intro transport
  obtain ⟨client, made, -, each⟩ :=
    postsForm_of_accepted "https://[::1]:8443/tenant" "id&code=1" "s=+%26" _ rfl
  obtain ⟨-, exchanges, -⟩ := each 8 0 transport
  obtain ⟨-, posted⟩ := exchanges "HTTPS://[::1]:443/back" "c&grant_type=none" _ rfl
  obtain ⟨outbound, isSent, -, endpoint, -, body, ends⟩ := posted
  have place : outbound.url.text = "https://[::1]:8443/tenant/oauth2/token" :=
    endpoint.trans (by decide +kernel)
  refine ⟨client, made, outbound, isSent, place, body, ?_⟩
  generalize ((client.withLimit 8).exchangeCode 0 transport "HTTPS://[::1]:443/back"
    "c&grant_type=none").completion = completion at ends
  cases ends with
  | refused _ bytes _ read => cases read
  | refusedUnread => rfl
  | unread _ _ within => exact absurd within (by decide)
  | decoded _ _ within => exact absurd within (by decide)

end Oauth.TokenClient

end ConfinedHttp
