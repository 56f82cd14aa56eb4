import IxHttpClient.Engine

/-!
# The stages of a call

One lemma per stage of `request`, each saying what the stage returns from
what the transport delivers, so that the results about whole calls never
unfold `request` again.  A server's reply is described by its status line and
header fields; `Reply.bytes` is how §6 frames them on the wire, and
`chunkedBody` is the chunked framing of §4.3.
-/

namespace IxHttpClient

/-- A server's reply up to its body: the status line and the header fields. -/
structure Reply where
  statusLine : List Char
  fields : List (String × String)

namespace Reply

/-- The bytes of a reply: the status line, the header block and its blank line. -/
def bytes (reply : Reply) : List Char :=
  reply.statusLine ++ crlf ++ headerBlock reply.fields

/-- A reply the transport reads back as it was written. -/
def Framed (reply : Reply) : Prop :=
  '\r' ∉ reply.statusLine ∧ ∀ field ∈ reply.fields, FieldFramed field

instance : DecidablePred Framed :=
  fun _ => inferInstanceAs (Decidable (_ ∧ _))

end Reply

/-- The chunked framing of a body: each chunk as its size line, CR LF, its
bytes and CR LF, then the zero-size chunk `0` CR LF and the final CR LF. -/
def chunkedBody (chunks : List (List Char × List Char)) : List Char :=
  chunks.flatMap (fun chunk => chunk.1 ++ crlf ++ chunk.2 ++ crlf) ++ '0' :: crlf ++ crlf

@[simp]
theorem chunkedBody_cons (chunk : List Char × List Char) (chunks : List (List Char × List Char)) :
    chunkedBody (chunk :: chunks) =
      chunk.1 ++ '\r' :: '\n' :: (chunk.2 ++ '\r' :: '\n' :: chunkedBody chunks) := by
  simp [chunkedBody]

/-- Hop `redirects` of a call to `url` goes through: the URL parses to
`target`, the socket is created, connects and sends the request, and the
server replies with the framed `reply` followed by `rest`. -/
structure Environment.Delivers (env : Environment) (url : String) (redirects : Int)
    (target : Url) (reply : Reply) (rest : List Char) : Prop where
  parsed : env.parseUrl url = some target
  created : (env.hop redirects).socketCreated = true
  connected : (env.hop redirects).connectError = none
  written : (env.hop redirects).writeSucceeds = true
  incoming : (env.hop redirects).incoming = reply.bytes ++ rest
  framed : reply.Framed

/-- `http://example.com/` as a parsed URL. -/
def exampleTarget : Url :=
  ⟨"http", "example.com", "/", "", 80⟩

/-- A server that answers every hop with `reply` and then `body`, behind a URL
parser that reads every URL as `exampleTarget`; `reserve` grants up to `2^62`
and uninitialised variables hold 0. -/
def Environment.serving (reply : Reply) (body : List Char) : Environment where
  parseUrl := fun _ => some exampleTarget
  hop := fun _ => ⟨true, "", none, true, reply.bytes ++ body⟩
  gzipInflate := fun _ => none
  maxSize := 2 ^ 62
  maxSize_lt := by decide
  indeterminate := fun _ => 0

/-- A GET of `http://example.com/` that follows no redirect. -/
def plainGet : HttpRequestArgs :=
  ⟨"http://example.com/", HttpClient.kGet, "", StringMap.empty, 60, 1800, false, 5, false⟩

theorem Environment.serving_delivers {reply : Reply} (framed : reply.Framed) (body : List Char)
    (url : String) (redirects : Int) :
    (Environment.serving reply body).Delivers url redirects exampleTarget reply body :=
  ⟨rfl, rfl, rfl, rfl, rfl, framed⟩

namespace HttpClient

variable {env : Environment}

@[simp]
theorem request_of_held (url verb body : String) (args : HttpRequestArgs) (redirects : Int) :
    request env true url verb body args redirects = (.deadlock, []) := by
  rw [request]
  simp

/-- A hop whose URL parses and whose socket is created reaches `sendRequest`
on the hop's fresh socket. -/
theorem request_of_created {url verb body : String} {args : HttpRequestArgs} {redirects : Int}
    {target : Url} (parsed : env.parseUrl url = some target)
    (created : (env.hop redirects).socketCreated = true) :
    request env false url verb body args redirects =
      sendRequest env (fun location => request env true location verb body args (redirects + 1))
        url verb body args redirects target (env.hop redirects).errorMsg
        (env.hop redirects).socket := by
  rw [request]
  simp [parsed, created]

/-- How a call that does not hold `_mutex` ends, said once for the results
about all its paths: with an error response and no transport call when the URL
does not parse or the socket is not created, or in `sendRequest` on the hop's
fresh socket. -/
theorem request_cases (url verb body : String) (args : HttpRequestArgs) (redirects : Int) :
    (∃ response : HttpResponse,
      request env false url verb body args redirects = (.response response, []) ∧
      response.errorCode ≠ .ok ∧
      (response.errorMsg = "Cannot parse url: " ++ url ∨
        response.errorMsg = (env.hop redirects).errorMsg ∧
          (env.hop redirects).socketCreated = false)) ∨
    ∃ target, env.parseUrl url = some target ∧ (env.hop redirects).socketCreated = true ∧
      request env false url verb body args redirects =
        sendRequest env (fun location => request env true location verb body args (redirects + 1))
          url verb body args redirects target (env.hop redirects).errorMsg
          (env.hop redirects).socket := by
  cases parsed : env.parseUrl url with
  | none =>
      refine .inl ⟨⟨0, .urlMalformed, StringMap.empty, [], "Cannot parse url: " ++ url, 0, 0⟩, ?_,
        nofun, .inl rfl⟩
      rw [request]
      simp [parsed]
  | some target =>
      cases created : (env.hop redirects).socketCreated with
      | false =>
          refine .inl ⟨⟨0, .cannotCreateSocket, StringMap.empty, [], (env.hop redirects).errorMsg,
            0, 0⟩, ?_, nofun, .inr ⟨rfl, rfl⟩⟩
          rw [request]
          simp [parsed, created]
      | true => exact .inr ⟨target, rfl, rfl, request_of_created parsed created⟩

/-- A hop that goes through reaches `handleResponse` with the parsed status
code and header map, the rest of the stream still unread. -/
theorem request_eq_handleResponse {url verb body : String} {args : HttpRequestArgs}
    {redirects : Int} {target : Url} {reply : Reply} {code : Int} {rest : List Char}
    (delivers : env.Delivers url redirects target reply rest)
    (status : scanStatusCode reply.statusLine = some code) :
    ∃ socket : Socket, socket.incoming = rest ∧
      request env false url verb body args redirects =
        handleResponse env
          (fun location => request env true location verb body args (redirects + 1))
          verb args redirects
          (makeCancellationRequestWithTimeout args.transferTimeout .requestInitCancellation)
          (env.hop redirects).errorMsg
          (buildRequest verb target.path target.host body args StringMap.empty).length
          code (StringMap.ofList reply.fields) socket := by
  obtain ⟨parsed, created, connected, written, incoming, noCR, fieldsFramed⟩ := delivers
  rw [request_of_created parsed created]
  simp only [sendRequest, Socket.connect, Socket.writeBytes, Hop.socket, connected, written,
    Socket.record_writeSucceeds]
  rw [Socket.readLine_of_incoming noCR]
  · simp only [status]
    rw [parseHttpHeaders_headerBlock _ fieldsFramed _ _ rest rfl]
    exact ⟨_, rfl, rfl⟩
  · simp [Socket.record, incoming, Reply.bytes]

theorem handleResponse_of_redirect {redirect : String → Outcome × List TransportCall}
    {verb : String} {args : HttpRequestArgs} {redirects : Int} {cancel : CancellationRequest}
    {errorMsg : String} {uploadSize : Nat} {code : Int} {headers : WebSocketHttpHeaders}
    {location : String} (socket : Socket)
    (isRedirect : 301 ≤ code ∧ code ≤ 308) (follow : args.followRedirects = true)
    (located : headers.find "Location" = some location) (budget : redirects < args.maxRedirects) :
    handleResponse env redirect verb args redirects cancel errorMsg uploadSize code headers socket =
      ((redirect location).1, socket.calls ++ (redirect location).2) := by
  simp [handleResponse, isRedirect, follow, located, not_le.mpr budget,
    StringMap.index_of_find_eq_some located]

theorem handleResponse_of_tooManyRedirects {redirect : String → Outcome × List TransportCall}
    {verb : String} {args : HttpRequestArgs} {redirects : Int} {cancel : CancellationRequest}
    {errorMsg : String} {uploadSize : Nat} {code : Int} {headers : WebSocketHttpHeaders}
    {location : String} (socket : Socket)
    (isRedirect : 301 ≤ code ∧ code ≤ 308) (follow : args.followRedirects = true)
    (located : headers.find "Location" = some location) (spent : args.maxRedirects ≤ redirects) :
    handleResponse env redirect verb args redirects cancel errorMsg uploadSize code headers socket =
      (.response ⟨code, .tooManyRedirects, headers, [],
        "Too many redirects: " ++ toString redirects, uploadSize, 0⟩, socket.calls) := by
  simp [handleResponse, isRedirect, follow, located, spent]

section Body

variable {redirect : String → Outcome × List TransportCall} {verb : String}
  {args : HttpRequestArgs} {redirects : Int} {cancel : CancellationRequest}
  {errorMsg : String} {uploadSize : Nat} {code : Int} {headers : WebSocketHttpHeaders}
  {socket : Socket}

theorem handleResponse_of_done {payload : List Char} {next : Socket}
    {finalHeaders : WebSocketHttpHeaders}
    (notFollowed : ¬ (301 ≤ code ∧ code ≤ 308 ∧ args.followRedirects = true))
    (notHead : verb ≠ "HEAD")
    (body : readBody env cancel code headers errorMsg socket = (.done payload next, finalHeaders)) :
    handleResponse env redirect verb args redirects cancel errorMsg uploadSize code headers socket =
      (.response (finishResponse env code finalHeaders payload uploadSize), next.calls) := by
  rw [handleResponse, if_neg notFollowed, if_neg notHead, body]

theorem handleResponse_of_lengthError {next : Socket} {finalHeaders : WebSocketHttpHeaders}
    (notFollowed : ¬ (301 ≤ code ∧ code ≤ 308 ∧ args.followRedirects = true))
    (notHead : verb ≠ "HEAD")
    (body : readBody env cancel code headers errorMsg socket = (.lengthError next, finalHeaders)) :
    handleResponse env redirect verb args redirects cancel errorMsg uploadSize code headers socket =
      (.lengthError, next.calls) := by
  rw [handleResponse, if_neg notFollowed, if_neg notHead, body]

theorem handleResponse_of_failed {errorCode : HttpErrorCode} {payload : List Char}
    {message : String} {next : Socket} {finalHeaders : WebSocketHttpHeaders}
    (notFollowed : ¬ (301 ≤ code ∧ code ≤ 308 ∧ args.followRedirects = true))
    (notHead : verb ≠ "HEAD")
    (body : readBody env cancel code headers errorMsg socket =
      (.failed errorCode payload message next, finalHeaders)) :
    handleResponse env redirect verb args redirects cancel errorMsg uploadSize code headers socket =
      (.response ⟨code, errorCode, finalHeaders, payload, message, uploadSize, 0⟩, next.calls) := by
  rw [handleResponse, if_neg notFollowed, if_neg notHead, body]

/-- A call whose hop goes through to a body stage that returns `payload`
returns what the gzip stage makes of it. -/
theorem request_of_body_done {url body : String} {target : Url} {reply : Reply} {rest : List Char}
    {payload : List Char} {finalHeaders : WebSocketHttpHeaders}
    (delivers : env.Delivers url redirects target reply rest)
    (status : scanStatusCode reply.statusLine = some code)
    (notFollowed : ¬ (301 ≤ code ∧ code ≤ 308 ∧ args.followRedirects = true))
    (notHead : verb ≠ "HEAD")
    (read : ∀ socket : Socket, socket.incoming = rest → ∃ next, readBody env
      (makeCancellationRequestWithTimeout args.transferTimeout .requestInitCancellation) code
      (StringMap.ofList reply.fields) (env.hop redirects).errorMsg socket =
        (.done payload next, finalHeaders)) :
    (request env false url verb body args redirects).1 =
      .response (finishResponse env code finalHeaders payload
        (buildRequest verb target.path target.host body args StringMap.empty).length) := by
  obtain ⟨socket, incoming, opened⟩ := request_eq_handleResponse delivers status
  obtain ⟨next, bodyRead⟩ := read socket incoming
  rw [opened, handleResponse_of_done notFollowed notHead bodyRead]

/-- A call whose body stage fails reports the failure with the status code and
the header map the stage returns. -/
theorem request_of_body_failed {url body : String} {target : Url} {reply : Reply}
    {rest : List Char} {errorCode : HttpErrorCode} {payload : List Char} {message : String}
    {finalHeaders : WebSocketHttpHeaders}
    (delivers : env.Delivers url redirects target reply rest)
    (status : scanStatusCode reply.statusLine = some code)
    (notFollowed : ¬ (301 ≤ code ∧ code ≤ 308 ∧ args.followRedirects = true))
    (notHead : verb ≠ "HEAD")
    (read : ∀ socket : Socket, socket.incoming = rest → ∃ next, readBody env
      (makeCancellationRequestWithTimeout args.transferTimeout .requestInitCancellation) code
      (StringMap.ofList reply.fields) (env.hop redirects).errorMsg socket =
        (.failed errorCode payload message next, finalHeaders)) :
    (request env false url verb body args redirects).1 =
      .response ⟨code, errorCode, finalHeaders, payload, message,
        (buildRequest verb target.path target.host body args StringMap.empty).length, 0⟩ := by
  obtain ⟨socket, incoming, opened⟩ := request_eq_handleResponse delivers status
  obtain ⟨next, bodyRead⟩ := read socket incoming
  rw [opened, handleResponse_of_failed notFollowed notHead bodyRead]

/-- A call whose body stage throws from `reserve` ends with that exception. -/
theorem request_of_body_lengthError {url body : String} {target : Url} {reply : Reply}
    {rest : List Char}
    (delivers : env.Delivers url redirects target reply rest)
    (status : scanStatusCode reply.statusLine = some code)
    (notFollowed : ¬ (301 ≤ code ∧ code ≤ 308 ∧ args.followRedirects = true))
    (notHead : verb ≠ "HEAD")
    (overflow : ∀ socket : Socket, socket.incoming = rest → ∃ next finalHeaders, readBody env
      (makeCancellationRequestWithTimeout args.transferTimeout .requestInitCancellation) code
      (StringMap.ofList reply.fields) (env.hop redirects).errorMsg socket =
        (.lengthError next, finalHeaders)) :
    (request env false url verb body args redirects).1 = .lengthError := by
  obtain ⟨socket, incoming, opened⟩ := request_eq_handleResponse delivers status
  obtain ⟨next, finalHeaders, bodyRead⟩ := overflow socket incoming
  rw [opened, handleResponse_of_lengthError notFollowed notHead bodyRead]

theorem readBody_of_contentLength_overflow {value : String}
    (length : headers.find "Content-Length" = some value)
    (overflow : env.maxSize < wrap64 (parseContentLength value)) :
    readBody env cancel code headers errorMsg socket = (.lengthError socket, headers) := by
  simp [readBody, length, StringMap.index_of_find_eq_some length, overflow]

theorem readBody_of_contentLength_read {value : String} {data : List Char} {next : Socket}
    (length : headers.find "Content-Length" = some value)
    (fits : wrap64 (parseContentLength value) ≤ env.maxSize)
    (read : socket.readBytes (wrap64 (parseContentLength value)) cancel = (some data, next)) :
    readBody env cancel code headers errorMsg socket = (.done data next, headers) := by
  simp [readBody, length, StringMap.index_of_find_eq_some length, not_lt.mpr fits, read]

/-- A `Content-Length` that fits frames the body: exactly that many bytes are
read. -/
theorem request_of_contentLength {url body : String} {target : Url} {reply : Reply}
    {data after : List Char} {value : String}
    (delivers : env.Delivers url redirects target reply (data ++ after))
    (status : scanStatusCode reply.statusLine = some code)
    (notFollowed : ¬ (301 ≤ code ∧ code ≤ 308 ∧ args.followRedirects = true))
    (notHead : verb ≠ "HEAD")
    (length : (StringMap.ofList reply.fields).find "Content-Length" = some value)
    (sized : wrap64 (parseContentLength value) = data.length) (fits : data.length ≤ env.maxSize) :
    (request env false url verb body args redirects).1 =
      .response (finishResponse env code (StringMap.ofList reply.fields) data
        (buildRequest verb target.path target.host body args StringMap.empty).length) :=
  request_of_body_done delivers status notFollowed notHead fun socket incoming => by
    obtain ⟨next, -, read⟩ := Socket.exists_readBytes incoming
      (makeCancellationRequestWithTimeout args.transferTimeout .requestInitCancellation)
    rw [← sized] at read fits
    exact ⟨next, readBody_of_contentLength_read length fits read⟩

end Body

theorem readBody_of_chunked {cancel : CancellationRequest} {code : Int}
    {headers : WebSocketHttpHeaders} {errorMsg : String} (socket : Socket)
    (noLength : headers.find "Content-Length" = none)
    (chunked : headers.find "Transfer-Encoding" = some "chunked") :
    readBody env cancel code headers errorMsg socket =
      (readChunks env cancel errorMsg IoState.goodbit 0 [] socket, headers) := by
  simp [readBody, noLength, chunked, StringMap.index_of_find_eq_some chunked]

theorem finishResponse_of_no_encoding {code : Int} {headers : WebSocketHttpHeaders}
    (payload : List Char) (uploadSize : Nat) (plain : headers.find "Content-Encoding" = none) :
    finishResponse env code headers payload uploadSize =
      ⟨code, .ok, headers.insert "Content-Encoding" "", payload, "", uploadSize,
        payload.length⟩ := by
  simp [finishResponse, StringMap.index_of_find_eq_none plain]

theorem readChunks_of_finish {cancel : CancellationRequest} {errorMsg : String}
    {state : IoState} {iteration : Nat} {payload : List Char} {socket : Socket}
    {result : BodyResult}
    (step : chunkStep env cancel errorMsg state iteration payload socket = .finish result) :
    readChunks env cancel errorMsg state iteration payload socket = result := by
  rw [readChunks]
  split <;> simp_all

theorem readChunks_of_next {cancel : CancellationRequest} {errorMsg : String}
    {state : IoState} {iteration : Nat} {payload : List Char} {socket : Socket}
    {state' : IoState} {payload' : List Char} {next : Socket}
    (step :
      chunkStep env cancel errorMsg state iteration payload socket = .next state' payload' next) :
    readChunks env cancel errorMsg state iteration payload socket =
      readChunks env cancel errorMsg state' (iteration + 1) payload' next := by
  rw [readChunks]
  split <;> simp_all

/-- An iteration that reads a size line, a chunk and its trailer. -/
theorem chunkStep_of_chunk {cancel : CancellationRequest} {errorMsg : String}
    {state : IoState} {iteration : Nat} {payload : List Char} {socket : Socket}
    {line chunk trailer : List Char} {afterSize afterChunk next : Socket} {size : Nat}
    (sizeRead : socket.readLine cancel = (some line, afterSize))
    (sized : (parseChunkSize state line).2.getD (wrap64 (env.indeterminate iteration)) = size)
    (fits : wrap64 (payload.length + size) ≤ env.maxSize)
    (chunkRead : afterSize.readBytes size cancel = (some chunk, afterChunk))
    (trailerRead : afterChunk.readLine cancel = (some trailer, next)) :
    chunkStep env cancel errorMsg state iteration payload socket =
      if size = 0 then .finish (.done (payload ++ chunk) next)
      else .next (parseChunkSize state line).1 (payload ++ chunk) next := by
  subst sized
  simp [chunkStep, sizeRead, not_lt.mpr fits, chunkRead, trailerRead]

end HttpClient

end IxHttpClient
