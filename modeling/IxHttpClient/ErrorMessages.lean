import IxHttpClient.BodyFraming
import IxHttpClient.Paths

/-!
# Error messages

Every exit of `request` that reports a failure writes a literal message into
the response, except two exits of the chunk loop: a size line that cannot be
read (lines 339-344) and a chunk trailer that cannot be read (lines 377-382)
return the outer `errorMsg`, which still holds what `createSocket` wrote into
it, and that is empty whenever the socket was created.  So a response has an
empty message exactly when it succeeds, or it is one of those
`ChunkReadError`s; and a chunked reply cut before its first size line ends
is one.
-/

namespace IxHttpClient

/-- The contract of `createSocket` (lines 125-143): it leaves `errorMsg` empty
when it returns a socket and writes a message when it fails. -/
def Environment.SocketMessages (env : Environment) : Prop :=
  ∀ redirects, (env.hop redirects).errorMsg = "" ↔ (env.hop redirects).socketCreated = true

/-- A message that is empty exactly when the error code is `Ok`, or a
`ChunkReadError` that carries `socketMsg`, what `createSocket` left. -/
def ExplainedMessage (socketMsg : String) (errorCode : HttpErrorCode) (message : String) :
    Prop :=
  (message = "" ↔ errorCode = .ok) ∨ errorCode = .chunkReadError ∧ message = socketMsg

/-- The outcome of a call explains its message; an exception or a deadlock has
none. -/
def Outcome.Explained (socketMsg : String) : Outcome → Prop
  | .response returned => ExplainedMessage socketMsg returned.errorCode returned.errorMsg
  | _ => True

/-- A failed body stage explains its message. -/
def BodyResult.Explained (socketMsg : String) : BodyResult → Prop
  | .failed errorCode _ message _ => ExplainedMessage socketMsg errorCode message
  | _ => True

namespace HttpClient

variable {env : Environment}

section Laws

variable {socketMsg : String}

theorem explained_ok : ExplainedMessage socketMsg .ok "" :=
  .inl (iff_of_true rfl rfl)

theorem explained_of_failure {errorCode : HttpErrorCode} {message : String}
    (failed : errorCode ≠ .ok) (nonempty : message ≠ "") :
    ExplainedMessage socketMsg errorCode message :=
  .inl (iff_of_false nonempty failed)

theorem explained_chunkReadError : ExplainedMessage socketMsg .chunkReadError socketMsg :=
  .inr ⟨rfl, rfl⟩

theorem explained_response {code : Int} {errorCode : HttpErrorCode}
    {headers : WebSocketHttpHeaders} {payload : List Char} {message : String}
    {uploadSize downloadSize : Nat} (failed : errorCode ≠ .ok) (nonempty : message ≠ "") :
    (Outcome.response ⟨code, errorCode, headers, payload, message, uploadSize,
      downloadSize⟩).Explained socketMsg :=
  explained_of_failure failed nonempty

end Laws

section Body

variable {cancel : CancellationRequest} {errorMsg : String}

/-- Every exit of one iteration of the chunk loop explains its message. -/
theorem chunkStep_explained {state : IoState} {iteration : Nat} {payload : List Char}
    {socket : Socket} {result : BodyResult}
    (step : chunkStep env cancel errorMsg state iteration payload socket = .finish result) :
    result.Explained errorMsg := by
  unfold chunkStep at step
  split at step
  · cases step
    exact explained_chunkReadError
  · dsimp only at step
    split at step
    · cases step
      exact True.intro
    · split at step
      · cases step
        exact explained_of_failure (by decide) (by decide)
      · split at step
        · cases step
          exact explained_chunkReadError
        · split at step <;> cases step
          exact True.intro

theorem readChunks_explained (state : IoState) (iteration : Nat) (payload : List Char)
    (socket : Socket) :
    (readChunks env cancel errorMsg state iteration payload socket).Explained errorMsg := by
  induction state, iteration, payload, socket using readChunks.induct env cancel errorMsg with
  | case1 state iteration payload socket result step =>
      rw [readChunks_of_finish step]
      exact chunkStep_explained step
  | case2 state iteration payload socket state' payload' next step _ ih =>
      rwa [readChunks_of_next step]

theorem readBody_explained (code : Int) (headers : WebSocketHttpHeaders) (socket : Socket) :
    (readBody env cancel code headers errorMsg socket).1.Explained errorMsg := by
  unfold readBody
  dsimp only
  repeat' split
  all_goals first
    | exact True.intro
    | exact readChunks_explained _ _ _ _
    | exact explained_of_failure (by decide) (by decide)

end Body

theorem finishResponse_explained (socketMsg : String) (code : Int)
    (headers : WebSocketHttpHeaders) (payload : List Char) (uploadSize : Nat) :
    ExplainedMessage socketMsg (finishResponse env code headers payload uploadSize).errorCode
      (finishResponse env code headers payload uploadSize).errorMsg := by
  unfold finishResponse
  repeat' split
  · exact explained_of_failure (by simp) (by simp)
  · exact explained_ok
  · exact explained_ok

/-- Once the headers are read every exit explains its message with the
`errorMsg` the call was handed, when the redirect call does. -/
theorem handleResponse_explained {redirect : String → Outcome × List TransportCall}
    {errorMsg : String} (redirected : ∀ location, (redirect location).1.Explained errorMsg)
    (verb : String) (args : HttpRequestArgs) (redirects : Int) (cancel : CancellationRequest)
    (uploadSize : Nat) (code : Int) (headers : WebSocketHttpHeaders) (socket : Socket) :
    (handleResponse env redirect verb args redirects cancel errorMsg uploadSize code headers
      socket).1.Explained errorMsg := by
  unfold handleResponse
  split_ifs
  · exact explained_response (by decide) (by decide)
  · exact explained_response (by decide) (append_ne_empty _ (by decide))
  · exact redirected _
  · exact explained_ok
  · have body := @readBody_explained env cancel errorMsg code headers socket
    split
    · exact True.intro
    · rename_i body'
      rw [body'] at body
      exact body
    · exact finishResponse_explained _ _ _ _ _

/-- Up to `handleResponse`, every exit of `sendRequest` writes a literal message. -/
theorem sendRequest_explained {redirect : String → Outcome × List TransportCall}
    {errorMsg : String} (redirected : ∀ location, (redirect location).1.Explained errorMsg)
    (url verb body : String) (args : HttpRequestArgs) (redirects : Int) (target : Url)
    (socket : Socket) :
    (sendRequest env redirect url verb body args redirects target errorMsg socket).1.Explained
      errorMsg := by
  rcases sendRequest_cases redirect url verb body args redirects target errorMsg socket with
    ⟨response, next, new, sent, -, failed, nonempty, -⟩ | ⟨code, headers, next, n, sent, -⟩
  · rw [sent]
    exact explained_of_failure failed nonempty
  · rw [sent]
    exact handleResponse_explained redirected _ _ _ _ _ _ _ _

/-- When `createSocket` keeps its contract, every response of a call explains
its message with an empty `socketMsg`. -/
theorem request_explained (sockets : env.SocketMessages) (url verb body : String)
    (args : HttpRequestArgs) (redirects : Int) :
    (request env false url verb body args redirects).1.Explained "" := by
  rcases @request_cases env url verb body args redirects with
    ⟨response, returned, failed, parseMsg | ⟨socketMsg, uncreated⟩⟩ | ⟨target, -, created, sent⟩
  · rw [returned]
    exact explained_of_failure failed (parseMsg ▸ append_ne_empty _ (by decide))
  · rw [returned]
    refine explained_of_failure failed fun empty => ?_
    rw [socketMsg] at empty
    rw [(sockets redirects).mp empty] at uncreated
    cases uncreated
  · rw [sent, (sockets redirects).mpr created]
    exact sendRequest_explained (fun location => by rw [request_of_held]; exact True.intro)
      url verb body args redirects target _

theorem explained_empty {errorCode : HttpErrorCode} {message : String}
    (explained : ExplainedMessage "" errorCode message) :
    (errorCode = .ok → message = "") ∧
      (message = "" → errorCode = .ok ∨ errorCode = .chunkReadError) := by
  rcases explained with law | ⟨chunk, empty⟩
  · exact ⟨law.mpr, fun empty => .inl (law.mp empty)⟩
  · exact ⟨fun _ => empty, fun _ => .inr chunk⟩

section Cut

variable {cancel : CancellationRequest} {errorMsg : String} {socket : Socket}

/-- An iteration on a stream that holds no CR LF fails at its size line and
returns `errorMsg`. -/
theorem chunkStep_of_cut (cut : splitLine socket.incoming = none) (state : IoState)
    (iteration : Nat) (payload : List Char) :
    ∃ next, chunkStep env cancel errorMsg state iteration payload socket =
      .finish (.failed .chunkReadError payload errorMsg next) :=
  by simp [chunkStep, Socket.readLine, cut]

theorem readBody_of_cut_chunk {code : Int} {headers : WebSocketHttpHeaders}
    (noLength : headers.find "Content-Length" = none)
    (chunked : headers.find "Transfer-Encoding" = some "chunked")
    (cut : splitLine socket.incoming = none) :
    ∃ next, readBody env cancel code headers errorMsg socket =
      (.failed .chunkReadError [] errorMsg next, headers) := by
  obtain ⟨next, step⟩ := @chunkStep_of_cut env cancel errorMsg socket cut .goodbit 0 []
  exact ⟨next, by rw [readBody_of_chunked socket noLength chunked, readChunks_of_finish step]⟩

end Cut

/-- When `createSocket` keeps its contract, a response's message is empty when
it succeeds and, among failures, only for a `ChunkReadError`; and a chunked
reply cut before its first size line ends is such a failure, whatever the
server sent before it. -/
theorem request_empty_message_iff_ok_except_chunk_reads (env : Environment)
    (sockets : env.SocketMessages) :
    (∀ url verb body args redirects response,
      (request env false url verb body args redirects).1 = .response response →
        (response.errorCode = .ok → response.errorMsg = "") ∧
          (response.errorMsg = "" → response.errorCode = .ok ∨
            response.errorCode = .chunkReadError)) ∧
    ∀ url verb body args redirects target reply rest code,
      env.Delivers url redirects target reply rest →
      scanStatusCode reply.statusLine = some code →
      ¬ (301 ≤ code ∧ code ≤ 308 ∧ args.followRedirects = true) → verb ≠ "HEAD" →
      (StringMap.ofList reply.fields).find "Content-Length" = none →
      (StringMap.ofList reply.fields).find "Transfer-Encoding" = some "chunked" →
      splitLine rest = none →
      (request env false url verb body args redirects).1 =
        .response ⟨code, .chunkReadError, StringMap.ofList reply.fields, [], "",
          (buildRequest verb target.path target.host body args StringMap.empty).length, 0⟩ := by
  refine ⟨fun url verb body args redirects response returned => ?_,
    fun url verb body args redirects target reply rest code delivers status notFollowed notHead
      noLength chunked cut => ?_⟩
  · have explained := request_explained sockets url verb body args redirects
    rw [returned] at explained
    exact explained_empty explained
  · rw [← (sockets redirects).mpr delivers.created]
    exact request_of_body_failed delivers status notFollowed notHead fun _ incoming =>
      readBody_of_cut_chunk noLength chunked (incoming ▸ cut)

theorem cut_chunked_reply_has_no_message :
    (Environment.serving chunkedReply "5".data).SocketMessages ∧
      (get (Environment.serving chunkedReply "5".data) "http://example.com/" plainGet).1 =
        .response ⟨200, .chunkReadError, StringMap.ofList chunkedReply.fields, [], "",
          (buildRequest kGet "/" "example.com" "" plainGet StringMap.empty).length, 0⟩ :=
  ⟨fun _ => iff_of_true rfl rfl,
    (request_empty_message_iff_ok_except_chunk_reads _ fun _ => iff_of_true rfl rfl).2
      "http://example.com/" kGet "" plainGet 0 exampleTarget chunkedReply "5".data 200
      (Environment.serving_delivers (by decide) _ _ 0) (by decide) (by decide) (by decide)
      (by decide) (by decide) rfl⟩

end HttpClient

end IxHttpClient
