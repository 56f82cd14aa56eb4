import IxHttpClient.Paths
import Mathlib.Algebra.BigOperators.Group.List
import Mathlib.Algebra.Order.Ring.Nat

/-!
# What a call sends and receives

On every path `request` talks to the server in one order: it connects once,
writes the request once right after, and from then on only reads.  The sizes
a response reports are that traffic.  `uploadSize` is the size of the request
once a read has followed the write (line 233 sets it when `writeBytes`
succeeds), and `downloadSize` is the number of bytes the reads of the body
asked for, when the body was read in full (line 399), counted before the gzip
stage; every other exit reports 0 for both.
-/

namespace IxHttpClient

namespace TransportCall

/-- Whether a call reads from the connection. -/
def isRead : TransportCall → Bool
  | .readLine _ | .readBytes _ _ => true
  | .connect _ _ _ | .writeBytes _ _ => false

/-- The bytes a call hands to the connection: the data of a `writeBytes`. -/
def sent : TransportCall → Nat
  | .writeBytes data _ => data.length
  | _ => 0

/-- The bytes a call asks of the connection: the length of a `readBytes`. -/
def requested : TransportCall → Nat
  | .readBytes length _ => length
  | _ => 0

end TransportCall

namespace Socket

/-- `next` is `socket` after further reads, which asked for `bytes` bytes in
all. -/
def Reads (socket next : Socket) (bytes : Nat) : Prop :=
  ∃ new : List TransportCall, next.calls = socket.calls ++ new ∧
    (∀ call ∈ new, call.isRead) ∧ (new.map TransportCall.requested).sum = bytes

namespace Reads

theorem refl (socket : Socket) : socket.Reads socket 0 :=
  ⟨[], by simp, by simp, rfl⟩

theorem trans {socket middle next : Socket} {first second : Nat}
    (before : socket.Reads middle first) (after : middle.Reads next second) :
    socket.Reads next (first + second) := by
  obtain ⟨new₁, calls₁, reads₁, sum₁⟩ := before
  obtain ⟨new₂, calls₂, reads₂, sum₂⟩ := after
  refine ⟨new₁ ++ new₂, by simp [calls₂, calls₁], fun call mem => ?_,
    by rw [List.map_append, List.sum_append, sum₁, sum₂]⟩
  rcases List.mem_append.mp mem with mem | mem
  exacts [reads₁ call mem, reads₂ call mem]

theorem of_readLine {socket next : Socket} {cancel : CancellationRequest}
    {line : Option (List Char)} (read : socket.readLine cancel = (line, next)) :
    socket.Reads next 0 :=
  ⟨[.readLine cancel], calls_of_readLine read, by simp [TransportCall.isRead], rfl⟩

theorem of_readBytes {socket next : Socket} {length : Nat} {cancel : CancellationRequest}
    {data : Option (List Char)} (read : socket.readBytes length cancel = (data, next)) :
    socket.Reads next length :=
  ⟨[.readBytes length cancel], by simpa [read] using socket.readBytes_calls length cancel,
    by simp [TransportCall.isRead], by simp [TransportCall.requested]⟩

end Reads

/-- A read of bytes that succeeds returns as many as it asked for. -/
theorem readBytes_length {socket next : Socket} {length : Nat} {cancel : CancellationRequest}
    {data : List Char} (read : socket.readBytes length cancel = (some data, next)) :
    data.length = length := by
  unfold readBytes at read
  split at read
  · cases read
    simpa
  · cases read

end Socket

/-- What a body stage that started from `socket` with `payload` did: it only
read, and a body it returns is `payload` followed by as many bytes as its
reads asked for; it fails with `ChunkReadError` or `CannotReadBody`. -/
def BodyResult.ReadFrom (socket : Socket) (payload : List Char) : BodyResult → Prop
  | .done body next => ∃ read, body = payload ++ read ∧ socket.Reads next read.length
  | .failed errorCode _ _ next =>
      (errorCode = .chunkReadError ∨ errorCode = .cannotReadBody) ∧
        ∃ bytes, socket.Reads next bytes
  | .lengthError next => ∃ bytes, socket.Reads next bytes

/-- Reads that come first extend what a later stage did. -/
theorem BodyResult.ReadFrom.after {socket middle : Socket} {payload read : List Char}
    (first : socket.Reads middle read.length) {result : BodyResult}
    (later : result.ReadFrom middle (payload ++ read)) : result.ReadFrom socket payload := by
  cases result with
  | done body next =>
      obtain ⟨more, rfl, reads⟩ := later
      exact ⟨read ++ more, by simp, by simpa using first.trans reads⟩
  | failed errorCode _ _ next =>
      obtain ⟨code, _, reads⟩ := later
      exact ⟨code, _, first.trans reads⟩
  | lengthError next =>
      obtain ⟨_, reads⟩ := later
      exact ⟨_, first.trans reads⟩

namespace HttpClient

/-- Where an iteration of the chunk loop that started from `socket` with
`payload` leaves the loop. -/
def ChunkStep.ReadFrom (socket : Socket) (payload : List Char) : ChunkStep → Prop
  | .finish result => result.ReadFrom socket payload
  | .next _ more reached => ∃ read, more = payload ++ read ∧ socket.Reads reached read.length

variable {env : Environment}

section Body

variable {cancel : CancellationRequest} {errorMsg : String}

theorem chunkStep_readFrom (state : IoState) (iteration : Nat) (payload : List Char)
    (socket : Socket) :
    (chunkStep env cancel errorMsg state iteration payload socket).ReadFrom socket payload := by
  unfold chunkStep
  split
  · rename_i next sizeRead
    exact ⟨.inl rfl, 0, Socket.Reads.of_readLine sizeRead⟩
  · rename_i line afterSize sizeRead
    have sized := Socket.Reads.of_readLine sizeRead
    dsimp only
    split
    · exact ⟨0, sized⟩
    · split
      · rename_i next chunkRead
        exact ⟨.inl rfl, _, sized.trans (Socket.Reads.of_readBytes chunkRead)⟩
      · rename_i chunk afterChunk chunkRead
        have chunked := sized.trans (Socket.Reads.of_readBytes chunkRead)
        split
        · rename_i next trailerRead
          exact ⟨.inl rfl, _, chunked.trans (Socket.Reads.of_readLine trailerRead)⟩
        · rename_i trailer next trailerRead
          have whole : socket.Reads next chunk.length := by
            simpa [Socket.readBytes_length chunkRead] using
              chunked.trans (Socket.Reads.of_readLine trailerRead)
          split <;> exact ⟨chunk, rfl, whole⟩

theorem readChunks_readFrom (state : IoState) (iteration : Nat) (payload : List Char)
    (socket : Socket) :
    (readChunks env cancel errorMsg state iteration payload socket).ReadFrom socket payload := by
  induction state, iteration, payload, socket using readChunks.induct env cancel errorMsg with
  | case1 state iteration payload socket result step =>
      have first := @chunkStep_readFrom env cancel errorMsg state iteration payload socket
      rw [step] at first
      rwa [readChunks_of_finish step]
  | case2 state iteration payload socket state' payload' next step _ ih =>
      have first := @chunkStep_readFrom env cancel errorMsg state iteration payload socket
      rw [step] at first
      obtain ⟨read, rfl, reads⟩ := first
      rw [readChunks_of_next step]
      exact ih.after reads

theorem readBody_readFrom (code : Int) (headers : WebSocketHttpHeaders) (socket : Socket) :
    (readBody env cancel code headers errorMsg socket).1.ReadFrom socket [] := by
  unfold readBody
  split
  · split
    dsimp only
    split
    · exact ⟨0, .refl socket⟩
    · split
      · rename_i next read
        exact ⟨.inl rfl, _, Socket.Reads.of_readBytes read⟩
      · rename_i data next read
        exact ⟨data, rfl, Socket.readBytes_length read ▸ Socket.Reads.of_readBytes read⟩
  · split
    split
    · exact readChunks_readFrom _ _ _ _
    · split
      · exact ⟨[], rfl, .refl socket⟩
      · exact ⟨.inr rfl, 0, .refl socket⟩

end Body

/-- The gzip stage reports `Ok` or `Gzip`, the size it was handed, and the
length of the payload before inflation. -/
theorem finishResponse_sizes (code : Int) (headers : WebSocketHttpHeaders) (payload : List Char)
    (uploadSize : Nat) :
    ((finishResponse env code headers payload uploadSize).errorCode = .ok ∨
      (finishResponse env code headers payload uploadSize).errorCode = .gzip) ∧
    (finishResponse env code headers payload uploadSize).uploadSize = uploadSize ∧
    (finishResponse env code headers payload uploadSize).downloadSize = payload.length := by
  unfold finishResponse
  repeat' split
  all_goals simp

/-- The sizes a response reports, when `uploaded` bytes went out and the reads
of the body asked for `received`. -/
def Reported (uploaded received : Nat) : Outcome → Prop
  | .response response => response.uploadSize = uploaded ∧
      response.downloadSize =
        if response.errorCode = .ok ∨ response.errorCode = .gzip then received else 0
  | _ => True

/-- After the headers a call only reads, and a response reports the size it
was handed and what the body's reads asked for. -/
theorem handleResponse_traffic {redirect : String → Outcome × List TransportCall}
    (held : ∀ location, redirect location = (.deadlock, [])) (verb : String)
    (args : HttpRequestArgs) (redirects : Int) (cancel : CancellationRequest) (errorMsg : String)
    (uploadSize : Nat) (code : Int) (headers : WebSocketHttpHeaders) (socket : Socket) :
    ∃ (next : Socket) (bytes : Nat), socket.Reads next bytes ∧
      (handleResponse env redirect verb args redirects cancel errorMsg uploadSize code headers
        socket).2 = next.calls ∧
      Reported uploadSize bytes
        (handleResponse env redirect verb args redirects cancel errorMsg uploadSize code headers
          socket).1 := by
  unfold handleResponse
  split
  · split
    · exact ⟨socket, 0, .refl socket, rfl, by simp [Reported]⟩
    · split
      · exact ⟨socket, 0, .refl socket, rfl, by simp [Reported]⟩
      · exact ⟨socket, 0, .refl socket, by simp [held], by simp [held, Reported]⟩
  · split
    · exact ⟨socket, 0, .refl socket, rfl, by simp [Reported]⟩
    · have body := @readBody_readFrom env cancel errorMsg code headers socket
      split
      · rename_i next _ bodyRead
        rw [bodyRead] at body
        obtain ⟨bytes, reads⟩ := body
        exact ⟨next, bytes, reads, rfl, True.intro⟩
      · rename_i errorCode _ _ next _ bodyRead
        rw [bodyRead] at body
        obtain ⟨failed, bytes, reads⟩ := body
        refine ⟨next, bytes, reads, rfl, rfl, ?_⟩
        rcases failed with rfl | rfl <;> rfl
      · rename_i payload next _ bodyRead
        rw [bodyRead] at body
        obtain ⟨read, shape, reads⟩ := body
        obtain ⟨finished, uploaded, downloaded⟩ :=
          @finishResponse_sizes env code _ payload uploadSize
        refine ⟨next, read.length, reads, rfl, uploaded, ?_⟩
        rw [downloaded, if_pos finished, shape, List.nil_append]

theorem sent_sum_of_reads {reads : List TransportCall} (only : ∀ call ∈ reads, call.isRead) :
    (reads.map TransportCall.sent).sum = 0 :=
  List.sum_eq_zero fun bytes mem => by
    obtain ⟨call, member, rfl⟩ := List.mem_map.mp mem
    have read := only call member
    cases call <;> first | rfl | exact absurd read Bool.false_ne_true

/-- How a call's traffic goes, said once for the results on its order and its
sizes.  It makes no transport call when the URL does not parse or no socket is
created.  Otherwise it calls `connect`, and when that succeeds `writeBytes`
with the request; a response before any read reports no size.  Once a line
read has followed the write, every further call reads, and a response reports
the request's size and what the reads of the body asked for. -/
theorem request_traffic {url verb body : String} {args : HttpRequestArgs} {redirects : Int}
    {outcome : Outcome} {calls : List TransportCall}
    (ran : request env false url verb body args redirects = (outcome, calls)) :
    (calls = [] ∧ Reported 0 0 outcome) ∨
    ∃ target, env.parseUrl url = some target ∧
      ((calls = [.connect target.host target.port
            (makeCancellationRequestWithTimeout args.connectTimeout .requestInitCancellation)] ∨
          calls = [.connect target.host target.port
            (makeCancellationRequestWithTimeout args.connectTimeout .requestInitCancellation),
            .writeBytes (buildRequest verb target.path target.host body args StringMap.empty)
              (makeCancellationRequestWithTimeout args.transferTimeout .requestInitCancellation)]) ∧
          Reported 0 0 outcome ∨
        ∃ (reads : List TransportCall) (bytes : Nat),
          calls = .connect target.host target.port
              (makeCancellationRequestWithTimeout args.connectTimeout .requestInitCancellation) ::
            .writeBytes (buildRequest verb target.path target.host body args StringMap.empty)
              (makeCancellationRequestWithTimeout args.transferTimeout .requestInitCancellation) ::
            .readLine (makeCancellationRequestWithTimeout args.transferTimeout
              .requestInitCancellation) :: reads ∧
          (∀ call ∈ reads, call.isRead) ∧ (reads.map TransportCall.requested).sum = bytes ∧
          Reported (buildRequest verb target.path target.host body args StringMap.empty).length
            bytes outcome) := by
  cases parsed : env.parseUrl url with
  | none =>
      rw [request] at ran
      simp only [Bool.false_eq_true, if_false, parsed, Prod.mk.injEq] at ran
      obtain ⟨rfl, rfl⟩ := ran
      exact .inl ⟨rfl, by simp [Reported]⟩
  | some target =>
      cases created : (env.hop redirects).socketCreated with
      | false =>
          rw [request] at ran
          simp only [Bool.false_eq_true, if_false, parsed, created, Prod.mk.injEq] at ran
          obtain ⟨rfl, rfl⟩ := ran
          exact .inl ⟨rfl, by simp [Reported]⟩
      | true =>
          refine .inr ⟨target, rfl, ?_⟩
          rw [request_of_created parsed created] at ran
          rcases sendRequest_exits (fun location => request env true location verb body args
              (redirects + 1)) url verb body args redirects target (env.hop redirects).errorMsg
              (env.hop redirects).socket with
            ⟨response, next, new, sent, calls', notOk, notGzip, -, downloaded, exit⟩ |
              ⟨code, headers, next, n, sent, calls'⟩
          · rw [sent, Prod.mk.injEq] at ran
            obtain ⟨rfl, rfl⟩ := ran
            simp only [Hop.socket, List.nil_append] at calls'
            rcases exit with ⟨rfl, -, uploaded⟩ | ⟨rfl, uploaded⟩ | ⟨n, rfl, uploaded⟩
            · exact .inl ⟨.inl calls', by simp [Reported, uploaded, downloaded]⟩
            · exact .inl ⟨.inr calls', by simp [Reported, uploaded, downloaded]⟩
            · refine .inr ⟨List.replicate n (.readLine
                (makeCancellationRequestWithTimeout args.transferTimeout .requestInitCancellation)),
                0, by simpa [List.replicate_succ] using calls', ?_, by simp [TransportCall.requested],
                by simp [Reported, uploaded, downloaded, notOk, notGzip]⟩
              simp [List.mem_replicate, TransportCall.isRead]
          · obtain ⟨final, bytes, ⟨new, finalCalls, reads, total⟩, handled, reported⟩ :=
              @handleResponse_traffic env _ (fun location => @request_of_held env location verb body
                args (redirects + 1)) verb args redirects
                (makeCancellationRequestWithTimeout args.transferTimeout .requestInitCancellation)
                (env.hop redirects).errorMsg
                (buildRequest verb target.path target.host body args StringMap.empty).length code
                headers next
            rw [sent] at ran
            rw [ran] at handled reported
            refine .inr ⟨List.replicate n (.readLine
                (makeCancellationRequestWithTimeout args.transferTimeout .requestInitCancellation)) ++
                new, bytes, ?_, ?_, by simp [TransportCall.requested, total], reported⟩
            · rw [show calls = final.calls from handled, finalCalls, calls']
              simp [Hop.socket, List.replicate_succ]
            · simp only [List.mem_append, List.mem_replicate]
              rintro call (⟨-, rfl⟩ | mem)
              exacts [rfl, reads call mem]

/-- Every call connects at most once, and only as its first transport call;
it writes the request at most once, right after a `connect`; every later call
reads.  No call is made when the URL does not parse or no socket is
created. -/
theorem request_connects_writes_then_reads (env : Environment) (url verb body : String)
    (args : HttpRequestArgs) (redirects : Int) :
    (request env false url verb body args redirects).2 = [] ∨
    ∃ target, env.parseUrl url = some target ∧
      ((request env false url verb body args redirects).2 = [.connect target.host target.port
          (makeCancellationRequestWithTimeout args.connectTimeout .requestInitCancellation)] ∨
        ∃ reads : List TransportCall, (request env false url verb body args redirects).2 =
          .connect target.host target.port
              (makeCancellationRequestWithTimeout args.connectTimeout .requestInitCancellation) ::
            .writeBytes (buildRequest verb target.path target.host body args StringMap.empty)
              (makeCancellationRequestWithTimeout args.transferTimeout .requestInitCancellation) ::
            reads ∧
          ∀ call ∈ reads, call.isRead) := by
  rcases request_traffic (@Prod.mk.eta _ _ (request env false url verb body args redirects)).symm
    with ⟨none, -⟩ | ⟨target, parsed, ⟨connected | written, -⟩ | ⟨reads, -, calls, only, -⟩⟩
  · exact .inl none
  · exact .inr ⟨target, parsed, .inl connected⟩
  · exact .inr ⟨target, parsed, .inr ⟨[], written, nofun⟩⟩
  · refine .inr ⟨target, parsed, .inr ⟨_ :: reads, calls, ?_⟩⟩
    simp only [List.mem_cons]
    rintro call (rfl | mem)
    exacts [rfl, only call mem]

/-- The sizes a response reports are the traffic of its call: `uploadSize` is
what `writeBytes` was handed, once a read shows the write went through, and
`downloadSize`, for an `Ok` or `Gzip` response, is what the calls of
`readBytes` asked for; everything else reports 0. -/
theorem request_sizes_count_traffic (env : Environment) (url verb body : String)
    (args : HttpRequestArgs) (redirects : Int) {response : HttpResponse}
    (returned : (request env false url verb body args redirects).1 = .response response) :
    response.uploadSize =
      (if (request env false url verb body args redirects).2.any TransportCall.isRead then
        ((request env false url verb body args redirects).2.map TransportCall.sent).sum else 0) ∧
    response.downloadSize =
      (if response.errorCode = .ok ∨ response.errorCode = .gzip then
        ((request env false url verb body args redirects).2.map TransportCall.requested).sum
      else 0) := by
  have ran : request env false url verb body args redirects =
      (.response response, (request env false url verb body args redirects).2) := by
    rw [← returned]
  generalize (request env false url verb body args redirects).2 = calls at ran ⊢
  rcases request_traffic ran with ⟨rfl, reported⟩ |
      ⟨target, -, ⟨rfl | rfl, reported⟩ | ⟨reads, bytes, rfl, only, total, reported⟩⟩ <;>
    obtain ⟨uploaded, downloaded⟩ := reported
  · simp [uploaded, downloaded]
  · simp [uploaded, downloaded, TransportCall.isRead, TransportCall.requested]
  · simp [uploaded, downloaded, TransportCall.isRead, TransportCall.requested]
  · simp [uploaded, downloaded, TransportCall.isRead, TransportCall.sent, TransportCall.requested,
      sent_sum_of_reads only, total]

/-- A `200` reply framed by `Content-Length: 5`. -/
def sizedReply : Reply :=
  ⟨"HTTP/1.1 200 OK".data, [("Content-Length", "5")]⟩

theorem get_sizes_count_traffic :
    ∃ response : HttpResponse,
      (request (Environment.serving sizedReply "hello".data) false "http://example.com/" kGet ""
        plainGet 0).1 = .response response ∧
      response.uploadSize =
        (if (request (Environment.serving sizedReply "hello".data) false "http://example.com/"
            kGet "" plainGet 0).2.any TransportCall.isRead then
          ((request (Environment.serving sizedReply "hello".data) false "http://example.com/" kGet
            "" plainGet 0).2.map TransportCall.sent).sum else 0) ∧
      response.downloadSize =
        (if response.errorCode = .ok ∨ response.errorCode = .gzip then
          ((request (Environment.serving sizedReply "hello".data) false "http://example.com/" kGet
            "" plainGet 0).2.map TransportCall.requested).sum
        else 0) := by
  have returned := @request_of_contentLength (Environment.serving sizedReply "hello".data) kGet
    plainGet 0 200 "http://example.com/" "" exampleTarget sizedReply "hello".data [] "5"
    ((List.append_nil _).symm ▸ Environment.serving_delivers (by decide) _ _ 0) (by decide)
    (by decide) (by decide) (by decide) (by decide) (by decide)
  exact ⟨_, returned, request_sizes_count_traffic _ _ _ _ _ _ returned⟩

end HttpClient

end IxHttpClient
