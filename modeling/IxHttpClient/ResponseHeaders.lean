import IxHttpClient.Paths

/-!
# The response headers

`request` reads the response headers with `find` and with `operator[]`.  The
lookups of `Location`, `Content-Length` and `Transfer-Encoding` each run
`operator[]` only after `find` has seen the key, but line 402,
`headers["Content-Encoding"] == "gzip"`, runs on every response that reaches
the gzip stage: when the server sent no `Content-Encoding`, `operator[]`
inserts it with the empty value, and the response returns that map.
-/

namespace IxHttpClient

namespace HttpClient

variable {env : Environment}

/-- The gzip stage looks `Content-Encoding` up with `operator[]`, so the
headers it returns always hold the key. -/
theorem finishResponse_encoded (code : Int) (headers : WebSocketHttpHeaders)
    (payload : List Char) (uploadSize : Nat) :
    (finishResponse env code headers payload uploadSize).headers.find "Content-Encoding" ≠
      none := by
  have present := StringMap.find_index_snd headers "Content-Encoding"
  rcases indexed : headers.index "Content-Encoding" with ⟨encoding, encoded⟩
  rw [indexed] at present
  unfold finishResponse
  rw [indexed]
  dsimp only
  split_ifs
  · split <;> simp [present]
  · simp [present]

theorem handleResponse_ok_encoded {redirect : String → Outcome × List TransportCall}
    {verb : String} {args : HttpRequestArgs} {redirects : Int} {cancel : CancellationRequest}
    {errorMsg : String} {uploadSize : Nat} {code : Int} {headers : WebSocketHttpHeaders}
    {socket : Socket} {response : HttpResponse}
    (redirected : ∀ location response, (redirect location).1 = .response response →
      response.errorCode = .ok → response.headers.find "Content-Encoding" ≠ none)
    (notHead : verb ≠ "HEAD")
    (returned : (handleResponse env redirect verb args redirects cancel errorMsg uploadSize code
      headers socket).1 = .response response)
    (ok : response.errorCode = .ok) :
    response.headers.find "Content-Encoding" ≠ none := by
  unfold handleResponse at returned
  split_ifs at returned
  · cases returned
    cases ok
  · cases returned
    cases ok
  · exact redirected _ response returned ok
  · split at returned
    · cases returned
    · rename_i failedCode payload message next finalHeaders body
      cases returned
      exact absurd ok ((readBody_reached body).failed_ne_ok rfl)
    · cases returned
      exact finishResponse_encoded _ _ _ _

theorem sendRequest_ok_encoded {redirect : String → Outcome × List TransportCall}
    {url verb body : String} {args : HttpRequestArgs} {redirects : Int} {target : Url}
    {errorMsg : String} {socket : Socket} {response : HttpResponse}
    (redirected : ∀ location response, (redirect location).1 = .response response →
      response.errorCode = .ok → response.headers.find "Content-Encoding" ≠ none)
    (notHead : verb ≠ "HEAD")
    (returned : (sendRequest env redirect url verb body args redirects target errorMsg
      socket).1 = .response response)
    (ok : response.errorCode = .ok) :
    response.headers.find "Content-Encoding" ≠ none := by
  rcases sendRequest_cases redirect url verb body args redirects target errorMsg socket with
    ⟨failure, next, new, sent, -, failed, -⟩ | ⟨code, headers, next, n, sent, -⟩
  · rw [sent] at returned
    cases returned
    exact absurd ok failed
  · rw [sent] at returned
    exact handleResponse_ok_encoded redirected notHead returned ok

theorem request_ok_has_content_encoding (held : Bool) (url verb body : String)
    (args : HttpRequestArgs) (redirects : Int) {response : HttpResponse}
    (notHead : verb ≠ "HEAD")
    (returned : (request env held url verb body args redirects).1 = .response response)
    (ok : response.errorCode = .ok) :
    response.headers.find "Content-Encoding" ≠ none := by
  cases held with
  | true => simp at returned
  | false =>
      rcases @request_cases env url verb body args redirects with
        ⟨failure, answered, failed, -⟩ | ⟨target, -, -, sent⟩
      · rw [answered] at returned
        cases returned
        exact absurd ok failed
      · rw [sent] at returned
        exact sendRequest_ok_encoded (fun _ _ redirected => by simp at redirected) notHead
          returned ok

/-- A `200` reply of five bytes, with no `Content-Encoding`. -/
def helloReply : Reply :=
  ⟨"HTTP/1.1 200 OK".data, [("Content-Length", "5")]⟩

/-- What a GET returns for `helloReply`. -/
def helloResponse : HttpResponse :=
  ⟨200, .ok, (StringMap.ofList helloReply.fields).insert "Content-Encoding" "", "hello".data, "",
    (buildRequest kGet "/" "example.com" "" plainGet StringMap.empty).length, 5⟩

theorem get_hello_gains_content_encoding :
    (StringMap.ofList helloReply.fields).find "Content-Encoding" = none ∧
      (request (Environment.serving helloReply "hello".data) false "http://example.com/" kGet ""
        plainGet 0).1 = .response helloResponse ∧
      helloResponse.headers.find "Content-Encoding" ≠ none :=
  have returned : (request (Environment.serving helloReply "hello".data) false
      "http://example.com/" kGet "" plainGet 0).1 = .response helloResponse := by
    rw [@request_of_contentLength (Environment.serving helloReply "hello".data) kGet plainGet 0 200
      "http://example.com/" "" exampleTarget helloReply "hello".data [] "5"
      ((List.append_nil _).symm ▸ Environment.serving_delivers (by decide) _ _ 0) (by decide)
      (by decide) (by decide) (by decide) (by decide) (by decide),
      finishResponse_of_no_encoding _ _ (by decide)]
    rfl
  ⟨by decide, returned,
    request_ok_has_content_encoding false _ _ _ _ 0 (by decide) returned rfl⟩

end HttpClient

end IxHttpClient
