import IxHttpClient.Stages

/-!
# What every path of a request does

`request` has many exits.  This file follows all of them at once, stage by
stage, for two facts.  Each stage only appends to the socket's call log: the
first call is `connect`, passed the predicate built from `connectTimeout`, the
second is `writeBytes` of the request, and every later call is passed the
predicate built from `transferTimeout`.  And a body stage that fails never
reports `Ok`.  `sendRequest_exits` says once how `sendRequest` ends, and the
results about every path of a call start from it and from `request_cases`.
-/

namespace IxHttpClient

theorem append_ne_empty {s : String} (t : String) (nonempty : s ≠ "") : s ++ t ≠ "" := by
  intro joined
  have data := congrArg String.data joined
  rw [String.data_append] at data
  exact nonempty (String.ext_iff.mpr (List.append_eq_nil.mp data).1)

namespace Socket

/-- `next` is `socket` after further calls, each passed `cancel`. -/
def Continues (cancel : CancellationRequest) (socket next : Socket) : Prop :=
  ∃ new : List TransportCall, next.calls = socket.calls ++ new ∧ ∀ call ∈ new, call.cancel = cancel

namespace Continues

variable {cancel : CancellationRequest}

theorem refl (socket : Socket) : socket.Continues cancel socket :=
  ⟨[], by simp, by simp⟩

theorem trans {socket middle next : Socket} (first : socket.Continues cancel middle)
    (second : middle.Continues cancel next) : socket.Continues cancel next := by
  obtain ⟨new₁, calls₁, passed₁⟩ := first
  obtain ⟨new₂, calls₂, passed₂⟩ := second
  refine ⟨new₁ ++ new₂, by simp [calls₂, calls₁], fun call mem => ?_⟩
  rcases List.mem_append.mp mem with mem | mem
  · exact passed₁ call mem
  · exact passed₂ call mem

end Continues

theorem calls_of_readLine {socket next : Socket} {cancel : CancellationRequest}
    {line : Option (List Char)} (read : socket.readLine cancel = (line, next)) :
    next.calls = socket.calls ++ [.readLine cancel] := by
  simpa [read] using socket.readLine_calls cancel

theorem continues_of_readLine {socket next : Socket} {cancel : CancellationRequest}
    {line : Option (List Char)} (read : socket.readLine cancel = (line, next)) :
    socket.Continues cancel next :=
  ⟨[.readLine cancel], calls_of_readLine read, by simp [TransportCall.cancel]⟩

theorem continues_of_readBytes {socket next : Socket} {length : Nat}
    {cancel : CancellationRequest} {data : Option (List Char)}
    (read : socket.readBytes length cancel = (data, next)) : socket.Continues cancel next :=
  ⟨[.readBytes length cancel], by simpa [read] using socket.readBytes_calls length cancel,
    by simp [TransportCall.cancel]⟩

end Socket

/-- `parseHttpHeaders` only reads lines. -/
theorem parseHttpHeaders_reads (cancel : CancellationRequest) (headers : WebSocketHttpHeaders)
    (socket : Socket) :
    ∃ n, (parseHttpHeaders cancel headers socket).2.2.calls =
      socket.calls ++ List.replicate n (.readLine cancel) := by
  induction headers, socket using parseHttpHeaders.induct cancel with
  | case1 headers socket next read =>
      rw [parseHttpHeaders_of_none headers read]
      exact ⟨1, Socket.calls_of_readLine read⟩
  | case2 headers socket next read =>
      rw [parseHttpHeaders_of_empty headers read]
      exact ⟨1, Socket.calls_of_readLine read⟩
  | case3 headers socket c line next read _ ih =>
      rw [parseHttpHeaders_of_line headers read]
      obtain ⟨n, calls⟩ := ih
      exact ⟨n + 1, by simp [calls, Socket.calls_of_readLine read, List.replicate_succ]⟩

/-- The socket a body stage leaves. -/
def BodyResult.socket : BodyResult → Socket
  | .done _ socket => socket
  | .failed _ _ _ socket => socket
  | .lengthError socket => socket

/-- A body result reached from `socket` by calls passed `cancel`, and which
does not report `Ok` when it fails. -/
structure BodyResult.Reached (cancel : CancellationRequest) (socket : Socket)
    (result : BodyResult) : Prop where
  continues : socket.Continues cancel result.socket
  failed_ne_ok : ∀ {code payload errorMsg next},
    result = .failed code payload errorMsg next → code ≠ .ok

theorem BodyResult.Reached.of_done {cancel : CancellationRequest} {socket next : Socket}
    {payload : List Char} (continues : socket.Continues cancel next) :
    (BodyResult.done payload next).Reached cancel socket :=
  ⟨continues, nofun⟩

theorem BodyResult.Reached.of_failed {cancel : CancellationRequest} {socket next : Socket}
    {code : HttpErrorCode} {payload : List Char} {errorMsg : String}
    (continues : socket.Continues cancel next) (notOk : code ≠ .ok) :
    (BodyResult.failed code payload errorMsg next).Reached cancel socket :=
  ⟨continues, by rintro _ _ _ _ ⟨⟩; exact notOk⟩

namespace HttpClient

/-- The socket an iteration of the chunk loop leaves. -/
def ChunkStep.socket : ChunkStep → Socket
  | .finish result => result.socket
  | .next _ _ socket => socket

variable {env : Environment}

section ChunkLoop

variable {cancel : CancellationRequest} {errorMsg : String} {state : IoState}
  {iteration : Nat} {payload : List Char} {socket : Socket}

theorem chunkStep_continues {step : ChunkStep}
    (stepped : chunkStep env cancel errorMsg state iteration payload socket = step) :
    socket.Continues cancel step.socket := by
  subst stepped
  unfold chunkStep
  split
  · rename_i next sizeRead
    exact Socket.continues_of_readLine sizeRead
  · rename_i line afterSize sizeRead
    have sized := Socket.continues_of_readLine sizeRead
    dsimp only
    split
    · exact sized
    · split
      · rename_i next chunkRead
        exact sized.trans (Socket.continues_of_readBytes chunkRead)
      · rename_i chunk afterChunk chunkRead
        have chunked := sized.trans (Socket.continues_of_readBytes chunkRead)
        split
        · rename_i next trailerRead
          exact chunked.trans (Socket.continues_of_readLine trailerRead)
        · rename_i trailer next trailerRead
          split <;> exact chunked.trans (Socket.continues_of_readLine trailerRead)

/-- Every failure of the chunk loop is `ChunkReadError`. -/
theorem chunkStep_failed {code : HttpErrorCode} {failedPayload : List Char}
    {failedMsg : String} {next : Socket}
    (step : chunkStep env cancel errorMsg state iteration payload socket =
      .finish (.failed code failedPayload failedMsg next)) :
    code = .chunkReadError := by
  unfold chunkStep at step
  split at step
  · cases step; rfl
  · dsimp only at step
    split at step
    · cases step
    · split at step
      · cases step; rfl
      · split at step
        · cases step; rfl
        · split at step <;> cases step

theorem readChunks_reached :
    (readChunks env cancel errorMsg state iteration payload socket).Reached cancel socket := by
  induction state, iteration, payload, socket using readChunks.induct env cancel errorMsg with
  | case1 state iteration payload socket result step =>
      rw [readChunks_of_finish step]
      refine ⟨chunkStep_continues step, fun failed => ?_⟩
      subst failed
      rw [chunkStep_failed step]
      decide
  | case2 state iteration payload socket state' payload' next step _ ih =>
      rw [readChunks_of_next step]
      exact ⟨(chunkStep_continues step).trans ih.continues, ih.failed_ne_ok⟩

end ChunkLoop

theorem readBody_reached {cancel : CancellationRequest} {code : Int}
    {headers : WebSocketHttpHeaders} {errorMsg : String} {socket : Socket}
    {result : BodyResult} {finalHeaders : WebSocketHttpHeaders}
    (body : readBody env cancel code headers errorMsg socket = (result, finalHeaders)) :
    result.Reached cancel socket := by
  obtain rfl : result = (readBody env cancel code headers errorMsg socket).1 := by rw [body]
  unfold readBody
  split
  · split
    dsimp only
    split
    · exact ⟨.refl socket, nofun⟩
    · split
      · rename_i next read
        exact BodyResult.Reached.of_failed (Socket.continues_of_readBytes read) (by decide)
      · rename_i data next read
        exact BodyResult.Reached.of_done (Socket.continues_of_readBytes read)
  · split
    split
    · exact readChunks_reached
    · split
      · exact BodyResult.Reached.of_done (.refl socket)
      · exact BodyResult.Reached.of_failed (.refl socket) (by decide)

theorem handleResponse_calls {redirect : String → Outcome × List TransportCall}
    (quiet : ∀ location, (redirect location).2 = []) (verb : String) (args : HttpRequestArgs)
    (redirects : Int) (cancel : CancellationRequest) (errorMsg : String) (uploadSize : Nat)
    (code : Int) (headers : WebSocketHttpHeaders) (socket : Socket) :
    ∃ next : Socket, socket.Continues cancel next ∧
      (handleResponse env redirect verb args redirects cancel errorMsg uploadSize code headers
        socket).2 = next.calls := by
  unfold handleResponse
  split
  · split
    · exact ⟨socket, .refl socket, rfl⟩
    · split
      · exact ⟨socket, .refl socket, rfl⟩
      · exact ⟨socket, .refl socket, by simp [quiet]⟩
  · split
    · exact ⟨socket, .refl socket, rfl⟩
    · split
      · rename_i next _ body
        exact ⟨next, (readBody_reached body).continues, rfl⟩
      · rename_i _ _ _ next _ body
        exact ⟨next, (readBody_reached body).continues, rfl⟩
      · rename_i _ next _ body
        exact ⟨next, (readBody_reached body).continues, rfl⟩

section Send

variable (redirect : String → Outcome × List TransportCall) (url verb body : String)
  (args : HttpRequestArgs) (redirects : Int) (target : Url) (errorMsg : String) (socket : Socket)

/-- How `sendRequest` ends, said once for the results about all its paths.  It
returns at one of its own exits with an error code other than `Ok` or `Gzip`,
a message and no `downloadSize`, after `connect` and, when `connect` succeeds,
`writeBytes` of the request and line reads, with the request's size as
`uploadSize` once a line read has followed the write; or it goes on to
`handleResponse` on the socket left after `connect`, `writeBytes` and the line
reads of the status line and the headers. -/
theorem sendRequest_exits :
    (∃ (response : HttpResponse) (next : Socket) (new : List TransportCall),
      sendRequest env redirect url verb body args redirects target errorMsg socket =
        (.response response, next.calls) ∧
      next.calls = socket.calls ++ .connect target.host target.port
        (makeCancellationRequestWithTimeout args.connectTimeout .requestInitCancellation) :: new ∧
      response.errorCode ≠ .ok ∧ response.errorCode ≠ .gzip ∧ response.errorMsg ≠ "" ∧
      response.downloadSize = 0 ∧
      (new = [] ∧ socket.connectError ≠ none ∧ response.uploadSize = 0 ∨
        new = [.writeBytes (buildRequest verb target.path target.host body args StringMap.empty)
            (makeCancellationRequestWithTimeout args.transferTimeout .requestInitCancellation)] ∧
          response.uploadSize = 0 ∨
        ∃ n, new = .writeBytes (buildRequest verb target.path target.host body args
            StringMap.empty)
            (makeCancellationRequestWithTimeout args.transferTimeout .requestInitCancellation) ::
            List.replicate (n + 1) (.readLine
              (makeCancellationRequestWithTimeout args.transferTimeout .requestInitCancellation)) ∧
          response.uploadSize =
            (buildRequest verb target.path target.host body args StringMap.empty).length)) ∨
    ∃ (code : Int) (headers : WebSocketHttpHeaders) (next : Socket) (n : Nat),
      sendRequest env redirect url verb body args redirects target errorMsg socket =
        handleResponse env redirect verb args redirects
          (makeCancellationRequestWithTimeout args.transferTimeout .requestInitCancellation) errorMsg
          (buildRequest verb target.path target.host body args StringMap.empty).length code headers
          next ∧
      next.calls = socket.calls ++ .connect target.host target.port
          (makeCancellationRequestWithTimeout args.connectTimeout .requestInitCancellation) ::
        .writeBytes (buildRequest verb target.path target.host body args StringMap.empty)
          (makeCancellationRequestWithTimeout args.transferTimeout .requestInitCancellation) ::
        List.replicate (n + 1) (.readLine
          (makeCancellationRequestWithTimeout args.transferTimeout .requestInitCancellation)) := by
  generalize sent : sendRequest env redirect url verb body args redirects target errorMsg socket =
    result
  unfold sendRequest at sent
  simp only [Socket.connect, Socket.writeBytes, Socket.record_writeSucceeds] at sent
  split at sent
  · subst sent
    rename_i errMsg next connected
    obtain ⟨failed, rfl⟩ := Prod.mk.inj connected
    exact .inl ⟨_, _, [], rfl, rfl, nofun, nofun,
      append_ne_empty _ (append_ne_empty _ (append_ne_empty _ (by decide))), rfl,
      .inl ⟨rfl, by simp [failed], rfl⟩⟩
  · rename_i next connected
    obtain ⟨-, rfl⟩ := Prod.mk.inj connected
    split at sent
    · subst sent
      rename_i next wrote
      obtain ⟨-, rfl⟩ := Prod.mk.inj wrote
      exact .inl ⟨_, _, _, rfl, by simp [Socket.record], nofun, nofun, by decide, rfl,
        .inr (.inl ⟨rfl, rfl⟩)⟩
    · rename_i sentSocket wrote
      obtain ⟨-, rfl⟩ := Prod.mk.inj wrote
      split at sent
      · subst sent
        rename_i next read
        exact .inl ⟨_, _, _, rfl, by simp [Socket.calls_of_readLine read, Socket.record], nofun,
          nofun, by simp, rfl, .inr (.inr ⟨0, rfl, rfl⟩)⟩
      · rename_i line afterStatus read
        have calls := Socket.calls_of_readLine read
        split at sent
        · subst sent
          exact .inl ⟨_, _, _, rfl, by simp [calls, Socket.record], nofun, nofun, by simp, rfl,
            .inr (.inr ⟨0, rfl, rfl⟩)⟩
        · obtain ⟨n, parsedCalls⟩ := parseHttpHeaders_reads
            (makeCancellationRequestWithTimeout args.transferTimeout .requestInitCancellation)
            StringMap.empty afterStatus
          split at sent
          · subst sent
            rename_i headers next parsedAs
            rw [parsedAs] at parsedCalls
            dsimp only at parsedCalls
            exact .inl ⟨_, _, _, rfl,
              by simp [parsedCalls, calls, Socket.record, List.replicate_succ], nofun, nofun,
              by simp, rfl, .inr (.inr ⟨n, rfl, rfl⟩)⟩
          · subst sent
            rename_i headers next parsedAs
            rw [parsedAs] at parsedCalls
            dsimp only at parsedCalls
            exact .inr ⟨_, headers, next, n, rfl,
              by simp [parsedCalls, calls, Socket.record, List.replicate_succ]⟩

/-- The exits of `sendRequest` as the results on calls and messages use them. -/
theorem sendRequest_cases :
    (∃ (response : HttpResponse) (next : Socket) (new : List TransportCall),
      sendRequest env redirect url verb body args redirects target errorMsg socket =
        (.response response, next.calls) ∧
      next.calls = socket.calls ++ .connect target.host target.port
        (makeCancellationRequestWithTimeout args.connectTimeout .requestInitCancellation) :: new ∧
      response.errorCode ≠ .ok ∧ response.errorMsg ≠ "" ∧
      (new = [] ∧ socket.connectError ≠ none ∨
        ∃ n, new = .writeBytes (buildRequest verb target.path target.host body args
            StringMap.empty)
            (makeCancellationRequestWithTimeout args.transferTimeout .requestInitCancellation) ::
            List.replicate n (.readLine
              (makeCancellationRequestWithTimeout args.transferTimeout .requestInitCancellation)))) ∨
    ∃ (code : Int) (headers : WebSocketHttpHeaders) (next : Socket) (n : Nat),
      sendRequest env redirect url verb body args redirects target errorMsg socket =
        handleResponse env redirect verb args redirects
          (makeCancellationRequestWithTimeout args.transferTimeout .requestInitCancellation) errorMsg
          (buildRequest verb target.path target.host body args StringMap.empty).length code headers
          next ∧
      next.calls = socket.calls ++ .connect target.host target.port
          (makeCancellationRequestWithTimeout args.connectTimeout .requestInitCancellation) ::
        .writeBytes (buildRequest verb target.path target.host body args StringMap.empty)
          (makeCancellationRequestWithTimeout args.transferTimeout .requestInitCancellation) ::
        List.replicate n (.readLine
          (makeCancellationRequestWithTimeout args.transferTimeout .requestInitCancellation)) := by
  rcases sendRequest_exits redirect url verb body args redirects target errorMsg socket with
    ⟨response, next, new, sent, calls, notOk, -, message, -, exit⟩ |
      ⟨code, headers, next, n, sent, calls⟩
  · refine .inl ⟨response, next, new, sent, calls, notOk, message, ?_⟩
    rcases exit with ⟨rfl, unconnected, -⟩ | ⟨rfl, -⟩ | ⟨n, rfl, -⟩
    · exact .inl ⟨rfl, unconnected⟩
    · exact .inr ⟨0, rfl⟩
    · exact .inr ⟨n + 1, rfl⟩
  · exact .inr ⟨code, headers, next, n + 1, sent, calls⟩

end Send

/-- The calls of a request once its socket exists: `connect` with the
connect-timeout predicate, then, when it connects, `writeBytes` of `req`,
and every call after `connect` with the transfer-timeout predicate. -/
theorem sendRequest_calls {redirect : String → Outcome × List TransportCall}
    (quiet : ∀ location, (redirect location).2 = []) (url verb body : String)
    (args : HttpRequestArgs) (redirects : Int) (target : Url) (errorMsg : String)
    (socket : Socket) :
    ∃ new : List TransportCall,
      (sendRequest env redirect url verb body args redirects target errorMsg socket).2 =
        socket.calls ++
          .connect target.host target.port
            (makeCancellationRequestWithTimeout args.connectTimeout .requestInitCancellation) ::
          new ∧
      (∀ call ∈ new, call.cancel =
        makeCancellationRequestWithTimeout args.transferTimeout .requestInitCancellation) ∧
      (socket.connectError = none → new.head? =
        some (.writeBytes (buildRequest verb target.path target.host body args StringMap.empty)
          (makeCancellationRequestWithTimeout args.transferTimeout .requestInitCancellation))) := by
  rcases sendRequest_cases redirect url verb body args redirects target errorMsg socket with
    ⟨response, next, new, sent, calls, -, -, ⟨rfl, unconnected⟩ | ⟨n, rfl⟩⟩ |
      ⟨code, headers, next, n, sent, calls⟩
  · exact ⟨[], by rw [sent, calls], nofun, fun connected => absurd connected unconnected⟩
  · refine ⟨_, by rw [sent, calls], fun call mem => ?_, fun _ => ?_⟩
    · rcases List.mem_cons.mp mem with rfl | mem
      · rfl
      · rw [(List.mem_replicate.mp mem).2]
        rfl
    · rfl
  · obtain ⟨final, ⟨more, finalCalls, passed⟩, handled⟩ := handleResponse_calls quiet verb args
      redirects (makeCancellationRequestWithTimeout args.transferTimeout .requestInitCancellation)
      errorMsg _ code headers next
    rw [sent, handled, finalCalls, calls]
    simp only [List.append_assoc, List.cons_append]
    refine ⟨_, rfl, fun call mem => ?_, fun _ => rfl⟩
    simp only [List.mem_cons, List.mem_append, List.mem_replicate] at mem
    rcases mem with rfl | ⟨-, rfl⟩ | mem
    · rfl
    · rfl
    · exact passed call mem

/-- The calls of a request that does not hold `_mutex`: none, or `connect` with
the connect-timeout predicate and after it only calls with the
transfer-timeout predicate, every one built on `requestInitCancellation`. -/
theorem request_calls_deadlines (url verb body : String) (args : HttpRequestArgs)
    (redirects : Int) :
    (request env false url verb body args redirects).2 = [] ∨
    ∃ (host : String) (port : Int) (rest : List TransportCall),
      (request env false url verb body args redirects).2 = .connect host port
          (makeCancellationRequestWithTimeout args.connectTimeout .requestInitCancellation) :: rest ∧
        ∀ call ∈ rest, call.cancel =
          makeCancellationRequestWithTimeout args.transferTimeout .requestInitCancellation := by
  rcases @request_cases env url verb body args redirects with
    ⟨response, returned, -, -⟩ | ⟨target, -, -, sent⟩
  · exact .inl (by rw [returned])
  · obtain ⟨new, calls, passed, -⟩ := @sendRequest_calls env
      (fun location => request env true location verb body args (redirects + 1))
      (fun _ => by simp) url verb body args redirects target (env.hop redirects).errorMsg
      (env.hop redirects).socket
    rw [sent, calls]
    exact .inr ⟨target.host, target.port, new, by simp [Hop.socket], passed⟩

/-- A request whose socket is created and connects sends `req` right after
`connect`. -/
theorem request_calls_of_connected {url verb body : String} {args : HttpRequestArgs}
    {redirects : Int} {target : Url} (parsed : env.parseUrl url = some target)
    (created : (env.hop redirects).socketCreated = true)
    (connected : (env.hop redirects).connectError = none) :
    ∃ rest : List TransportCall, (request env false url verb body args redirects).2 =
      .connect target.host target.port
          (makeCancellationRequestWithTimeout args.connectTimeout .requestInitCancellation) ::
        .writeBytes (buildRequest verb target.path target.host body args StringMap.empty)
          (makeCancellationRequestWithTimeout args.transferTimeout .requestInitCancellation) ::
        rest := by
  rw [request_of_created parsed created]
  obtain ⟨new, calls, -, written⟩ := @sendRequest_calls env
    (fun location => request env true location verb body args (redirects + 1))
    (fun _ => by simp) url verb body args redirects target (env.hop redirects).errorMsg
    (env.hop redirects).socket
  cases new with
  | nil => simp [Hop.socket, connected] at written
  | cons call rest =>
      obtain rfl : call = _ := by simpa [Hop.socket, connected] using written
      exact ⟨rest, by simpa [Hop.socket] using calls⟩

end HttpClient

end IxHttpClient
