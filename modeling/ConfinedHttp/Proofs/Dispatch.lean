import ConfinedHttp.Proofs.FormReading
import ConfinedHttp.Proofs.SessionRun

namespace ConfinedHttp

namespace Url

/-- What stands in a URL before its query. -/
def withoutTail (url : Url) : Url := { url with query := none, fragment := none }

/-- A query stands between the path and the fragment. -/
theorem write_of_query (url : Url) (query : String) (isQuery : url.query = some query) :
    url.write =
      url.withoutTail.write ++ '?' :: query.toList ++ writeMarked '#' url.fragment := by
  simp [write, writeAuthority, withoutTail, writeMarked, isQuery]

end Url

/-- A request that is accepted reaches the transport once, with its method and its body as they
are.  Its URL is the one that its path resolves to.  Without pairs nothing is added.  Otherwise the
encoded pairs stand behind the query of the path and before the fragment, and they are read back in
order behind the pairs of the path. -/
theorem Requestor.send_faithful (requestor : Requestor) (call : Nat)
    (transport : Outbound → Answer) (request : Request) (url : Url)
    (resolved : requestor.confines.resolve request.path = .ok url) :
    ∃ outbound, (requestor.send call true transport request).sent = [outbound] ∧
      outbound.method = request.method ∧
      outbound.body = request.body ∧
      outbound.url.scheme = url.scheme ∧
      outbound.url.authority = url.authority ∧
      outbound.url.path = url.path ∧
      outbound.url.fragment = url.fragment ∧
      (request.query.isEmpty = true → outbound.url = url) ∧
      (request.query.isEmpty = false →
        let written := url.beforePairs ++ Form.encode request.query.pairs
        outbound.url.query = some (String.ofList written) ∧
          outbound.url.write =
            url.withoutTail.write ++ '?' :: written ++ Url.writeMarked '#' url.fragment) ∧
      outbound.url.queryPairs = url.queryPairs ++ request.query.pairs := by
  have handed : ∃ outbound, requestor.handed true request = [outbound] ∧
      outbound.method = request.method ∧ outbound.body = request.body ∧
      outbound.url =
        if request.query.isEmpty then url else url.appendPairs request.query.pairs := by
    rw [handed, prepare, resolved]
    exact ⟨_, rfl, rfl, rfl, rfl⟩
  obtain ⟨outbound, isSent, method, body, isUrl⟩ := handed
  refine ⟨outbound, (sent_send ..).trans isSent, method, body, ?_⟩
  rw [isUrl]
  cases bare : request.query.isEmpty with
  | true =>
    have none : request.query.pairs = [] := by simpa [Multidict.isEmpty] using bare
    simp [none]
  | false =>
    have isQuery := url.query_appendPairs request.query.pairs
    refine ⟨rfl, rfl, rfl, rfl, by simp, fun _ => ⟨isQuery, ?_⟩, ?_⟩
    · have written := (url.appendPairs request.query.pairs).write_of_query _ isQuery
      rw [String.toList_ofList] at written
      exact written
    · exact url.queryPairs_appendPairs request.query.pairs

/-- Marks, blanks and letters past ASCII come through behind a query of the path, and before its
fragment. -/
theorem Requestor.send_faithful_marked :
    let api : Url := ⟨"https", some ⟨"", none, .name "host", none⟩, .rooted ["api", ""], none, none⟩
    let users : Url :=
      { api with path := .rooted ["api", "users"], query := some "page=1&", fragment := some "top" }
    let pairs := [("", ""), ("a&b", "x=y + 1%"), ("ü", "#"), ("ü", "#")]
    let request := (Request.plain .put "users?page=1&#top").withQuery ⟨pairs⟩
    Prefix.resolve ⟨api⟩ request.path = .ok users ∧
      ∃ outbound : Outbound,
        (Requestor.send ⟨⟨api⟩, .absent, 8⟩ 0 true (fun _ => .pending) request).sent = [outbound] ∧
          outbound.url.text =
            "https://host/api/users?page=1&&=&a%26b=x%3Dy+%2B+1%25&%C3%BC=%23&%C3%BC=%23#top" ∧
          outbound.url.queryPairs = ("page", "1") :: pairs := by
  intro api users pairs request
  have resolved : Prefix.resolve ⟨api⟩ request.path = .ok users := by decide +kernel
  obtain ⟨outbound, isSent, -, -, -, -, -, -, -, written, decoded⟩ :=
    send_faithful ⟨⟨api⟩, .absent, 8⟩ 0 (fun _ => .pending) request users resolved
  have text : outbound.url.write =
      users.withoutTail.write ++ '?' :: (users.beforePairs ++ Form.encode pairs) ++ "#top".toList :=
    (written rfl).2
  refine ⟨resolved, outbound, isSent, ?_, decoded.trans (by decide +kernel)⟩
  rw [Url.text, text]
  decide +kernel

end ConfinedHttp
