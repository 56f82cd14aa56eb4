import IxHttpClient.Paths

/-!
# HEAD requests

`request` tests the verb against `"HEAD"` (line 300) after the redirect check
and before any body framing, and a redirect it follows blocks on `_mutex`
before any transport call.  So a HEAD request never calls `readBytes`, on any
hop, and an `Ok` response to it has no payload and a download size of 0,
whatever `Content-Length`, `Transfer-Encoding` or `Content-Encoding` the
server sends.
-/

namespace IxHttpClient

/-- Whether a transport call reads body bytes. -/
def TransportCall.readsBody : TransportCall → Bool
  | .readBytes _ _ => true
  | _ => false

namespace Socket

/-- `next` is `socket` after further calls, none of which reads body bytes. -/
def ReadsNoBody (socket next : Socket) : Prop :=
  ∃ new : List TransportCall, next.calls = socket.calls ++ new ∧
    ∀ call ∈ new, call.readsBody = false

namespace ReadsNoBody

theorem refl (socket : Socket) : socket.ReadsNoBody socket :=
  ⟨[], by simp, by simp⟩

end ReadsNoBody

end Socket

/-- `connect`, `writeBytes` and line reads read no body. -/
theorem readsBody_of_sent {call : TransportCall} {host : String} {port : Int}
    {connectCancel cancel : CancellationRequest} {data : String} {n : Nat}
    (mem : call ∈ .connect host port connectCancel :: .writeBytes data cancel ::
      List.replicate n (.readLine cancel)) :
    call.readsBody = false := by
  simp only [List.mem_cons, List.mem_replicate] at mem
  rcases mem with rfl | rfl | ⟨-, rfl⟩ <;> rfl

namespace HttpClient

variable {env : Environment}

/-- What a HEAD request must come to: the calls after `calls` read no body,
and an `Ok` response has no payload and nothing downloaded. -/
def HeadResult (calls : List TransportCall) (result : Outcome × List TransportCall) : Prop :=
  (∃ new, result.2 = calls ++ new ∧ ∀ call ∈ new, call.readsBody = false) ∧
    ∀ response, result.1 = .response response → response.errorCode = .ok →
      response.payload = [] ∧ response.downloadSize = 0

namespace HeadResult

theorem of_failure {socket next : Socket} {response : HttpResponse}
    (failed : response.errorCode ≠ .ok) (reads : socket.ReadsNoBody next) :
    HeadResult socket.calls (.response response, next.calls) :=
  ⟨reads, fun _ returned ok => absurd (Outcome.response.inj returned ▸ ok) failed⟩

theorem after {socket next : Socket} {result : Outcome × List TransportCall}
    (reads : socket.ReadsNoBody next) (later : HeadResult next.calls result) :
    HeadResult socket.calls result := by
  obtain ⟨⟨new, calls, quiet⟩, ok⟩ := later
  obtain ⟨earlier, nextCalls, earlierQuiet⟩ := reads
  refine ⟨⟨earlier ++ new, by simp [calls, nextCalls], fun call mem => ?_⟩, ok⟩
  rcases List.mem_append.mp mem with mem | mem
  · exact earlierQuiet call mem
  · exact quiet call mem

end HeadResult

/-- Once the headers are read, a HEAD request answers from them: the redirect
exits report errors, the redirect call itself blocks, and the HEAD exit has
no payload. -/
theorem handleResponse_head {redirect : String → Outcome × List TransportCall}
    (blocked : ∀ location, redirect location = (.deadlock, [])) (args : HttpRequestArgs)
    (redirects : Int) (cancel : CancellationRequest) (errorMsg : String) (uploadSize : Nat)
    (code : Int) (headers : WebSocketHttpHeaders) (socket : Socket) :
    HeadResult socket.calls (handleResponse env redirect "HEAD" args redirects cancel errorMsg
      uploadSize code headers socket) := by
  unfold handleResponse
  split_ifs
  · exact HeadResult.of_failure (by simp) (.refl socket)
  · exact HeadResult.of_failure (by simp) (.refl socket)
  · simp only [blocked]
    exact ⟨⟨[], rfl, by simp⟩, fun _ blocks => by cases blocks⟩
  · exact ⟨⟨[], by simp, by simp⟩, fun _ returned _ => by cases returned; simp⟩
  · exact absurd rfl ‹¬"HEAD" = "HEAD"›

theorem sendRequest_head {redirect : String → Outcome × List TransportCall}
    (blocked : ∀ location, redirect location = (.deadlock, [])) (url body : String)
    (args : HttpRequestArgs) (redirects : Int) (target : Url) (errorMsg : String)
    (socket : Socket) :
    HeadResult socket.calls
      (sendRequest env redirect url "HEAD" body args redirects target errorMsg socket) := by
  rcases sendRequest_cases redirect url "HEAD" body args redirects target errorMsg socket with
    ⟨response, next, new, sent, calls, failed, -, lines⟩ | ⟨code, headers, next, n, sent, calls⟩
  · rw [sent]
    refine HeadResult.of_failure failed ⟨_, calls, fun call mem => ?_⟩
    rcases lines with ⟨rfl, -⟩ | ⟨n, rfl⟩
    · rw [List.mem_singleton.mp mem]
      rfl
    · exact readsBody_of_sent mem
  · rw [sent]
    exact HeadResult.after ⟨_, calls, fun _ mem => readsBody_of_sent mem⟩
      (handleResponse_head blocked _ _ _ _ _ _ _ _)

theorem request_head (url body : String) (args : HttpRequestArgs) (redirects : Int) :
    HeadResult [] (request env false url "HEAD" body args redirects) := by
  rcases @request_cases env url "HEAD" body args redirects with
    ⟨response, returned, failed, -⟩ | ⟨target, -, -, sent⟩
  · rw [returned]
    exact ⟨⟨[], rfl, by simp⟩, fun _ answered ok => absurd (Outcome.response.inj answered ▸ ok) failed⟩
  · rw [sent]
    exact sendRequest_head (fun location => request_of_held location "HEAD" body args _)
      url body args redirects target _ _

/-- A HEAD request reads no body on any hop, and when it succeeds it returns
no payload and a download size of 0. -/
theorem head_reads_no_body (env : Environment) (url : String) (args : HttpRequestArgs) :
    (∀ call ∈ (head env url args).2, call.readsBody = false) ∧
      ∀ response, (head env url args).1 = .response response → response.errorCode = .ok →
        response.payload = [] ∧ response.downloadSize = 0 := by
  obtain ⟨⟨new, calls, quiet⟩, ok⟩ := @request_head env url "" args 0
  exact ⟨by simpa [head, kHead, calls] using quiet, ok⟩

end HttpClient

end IxHttpClient
