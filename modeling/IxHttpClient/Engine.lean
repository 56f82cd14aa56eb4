import IxHttpClient.NumGet
import IxHttpClient.Transport
import IxHttpClient.Request

/-!
# The protocol engine

`HttpClient::request` (lines 105-418) takes `_mutex`, parses the URL, creates
a socket, writes the request, reads the status line and the headers, follows
a redirect by calling itself, and otherwise frames the body by
`Content-Length`, by the chunk loop or not at all, before the gzip stage.
Every early exit returns an `HttpResponse` built from the state reached so
far.  The world `request` runs in (the URL parser, what `createSocket` and the
server do on each hop, the inflate routine, the largest capacity `reserve`
grants, and the values uninitialised variables hold) is one `Environment`; the
result pairs how the call ends with the transport calls it made.
-/

namespace IxHttpClient

/-- The `HttpErrorCode` values `request` returns. -/
inductive HttpErrorCode where
  | ok
  | cannotConnect
  | gzip
  | urlMalformed
  | cannotCreateSocket
  | sendError
  | chunkReadError
  | cannotReadBody
  | missingStatus
  | headerParsingError
  | missingLocation
  | tooManyRedirects
  | cannotReadStatusLine
deriving DecidableEq, Repr

/-- `HttpResponse`, with its fields in the order of its constructor. -/
structure HttpResponse where
  statusCode : Int
  errorCode : HttpErrorCode
  headers : WebSocketHttpHeaders
  payload : List Char
  errorMsg : String
  uploadSize : Nat
  downloadSize : Nat
deriving DecidableEq

/-- How a call of `request` ends. -/
inductive Outcome where
  /-- It returns this response. -/
  | response (response : HttpResponse)
  /-- It blocks forever in `lock_guard` on `_mutex`, which its thread holds. -/
  | deadlock
  /-- `payload.reserve` throws, which nothing catches: `std::length_error`
  above `max_size()`, `std::bad_alloc` where the allocator cannot supply the
  memory. -/
  | lengthError
deriving DecidableEq

/-- The components `UrlParser::parse` extracts from a URL. -/
structure Url where
  protocol : String
  host : String
  path : String
  query : String
  port : Int
deriving DecidableEq

/-- What the world does on one hop: whether `createSocket` returns a socket
and what it leaves in `errorMsg`, then the connection's behaviour. -/
structure Hop where
  socketCreated : Bool
  errorMsg : String
  connectError : Option String
  writeSucceeds : Bool
  incoming : List Char

/-- The fresh socket of a hop, with no call made on it yet. -/
def Hop.socket (hop : Hop) : Socket :=
  ⟨hop.connectError, hop.writeSucceeds, hop.incoming, []⟩

/-- Everything `request` depends on outside its own code. -/
structure Environment where
  /-- `UrlParser::parse`. -/
  parseUrl : String → Option Url
  /-- `createSocket` and the server, at each redirect depth. -/
  hop : Int → Hop
  /-- `HttpClient::gzipInflate`: the inflated bytes, or `none` when it fails. -/
  gzipInflate : List Char → Option (List Char)
  /-- The largest capacity `payload.reserve` grants: at most
  `std::string::max_size()`, and less where the allocator cannot supply more. -/
  maxSize : Nat
  /-- On a 64-bit target `max_size()` is below `2^63`: the allocator bounds it
  by `PTRDIFF_MAX`. -/
  maxSize_lt : maxSize < 2 ^ 63
  /-- What the uninitialised `chunkSize` holds in iteration `i` of the chunk loop. -/
  indeterminate : Nat → Nat

/-- How the body stage of lines 307-397 ends. -/
inductive BodyResult where
  | done (payload : List Char) (socket : Socket)
  | failed (errorCode : HttpErrorCode) (payload : List Char) (errorMsg : String)
      (socket : Socket)
  | lengthError (socket : Socket)

namespace HttpClient

variable (env : Environment)

/-- Where one iteration of the chunk loop leaves it: the loop returns, or it
goes on with the stream state, the payload and the socket it reached. -/
inductive ChunkStep where
  | finish (result : BodyResult)
  | next (state : IoState) (payload : List Char) (socket : Socket)

/-- One iteration of the chunk loop of lines 334-385, iteration `iteration`,
with the loop's stream `ss` in `state` and `payload` read so far; `errorMsg`
is the outer variable, which still holds what `createSocket` wrote into it. -/
def chunkStep (cancel : CancellationRequest) (errorMsg : String) (state : IoState)
    (iteration : Nat) (payload : List Char) (socket : Socket) : ChunkStep :=
  match socket.readLine cancel with
  | (none, next) => .finish (.failed .chunkReadError payload errorMsg next)
  | (some line, afterSize) =>
      let parsed := parseChunkSize state line
      let chunkSize := parsed.2.getD (wrap64 (env.indeterminate iteration))
      if env.maxSize < wrap64 (payload.length + chunkSize) then .finish (.lengthError afterSize)
      else
        match afterSize.readBytes chunkSize cancel with
        | (none, next) => .finish (.failed .chunkReadError payload "Cannot read chunk" next)
        | (some chunk, afterChunk) =>
            match afterChunk.readLine cancel with
            | (none, next) => .finish (.failed .chunkReadError (payload ++ chunk) errorMsg next)
            | (some _, next) =>
                if chunkSize = 0 then .finish (.done (payload ++ chunk) next)
                else .next parsed.1 (payload ++ chunk) next

theorem chunkStep_next_lt {cancel : CancellationRequest} {errorMsg : String} {state : IoState}
    {iteration : Nat} {payload : List Char} {socket : Socket} {state' : IoState}
    {payload' : List Char} {next : Socket}
    (step :
      chunkStep env cancel errorMsg state iteration payload socket = .next state' payload' next) :
    next.incoming.length < socket.incoming.length := by
  unfold chunkStep at step
  split at step
  · cases step
  · rename_i line afterSize sizeRead
    dsimp only at step
    split at step
    · cases step
    · split at step
      · cases step
      · rename_i chunk afterChunk chunkRead
        have chunkLe := Socket.readBytes_incoming_le afterSize
          ((parseChunkSize state line).2.getD (wrap64 (env.indeterminate iteration))) cancel
        rw [chunkRead] at chunkLe
        split at step
        · cases step
        · rename_i trailerRead
          split at step
          · cases step
          · cases step
            have := Socket.readLine_incoming_lt trailerRead
            have := Socket.readLine_incoming_lt sizeRead
            dsimp only at chunkLe
            omega

/-- The chunk loop of lines 334-385 from iteration `iteration`. -/
def readChunks (cancel : CancellationRequest) (errorMsg : String) (state : IoState)
    (iteration : Nat) (payload : List Char) (socket : Socket) : BodyResult :=
  match step : chunkStep env cancel errorMsg state iteration payload socket with
  | .finish result => result
  | .next state payload next =>
      have := chunkStep_next_lt env step
      readChunks cancel errorMsg state (iteration + 1) payload next
termination_by socket.incoming.length

/-- Lines 307-397: the framing chosen by `Content-Length`, then by
`Transfer-Encoding: chunked`, then by status 204; the map is returned as the
`operator[]` lookups leave it. -/
def readBody (cancel : CancellationRequest) (code : Int) (headers : WebSocketHttpHeaders)
    (errorMsg : String) (socket : Socket) : BodyResult × WebSocketHttpHeaders :=
  if headers.find "Content-Length" ≠ none then
    let (value, headers) := headers.index "Content-Length"
    let capacity := wrap64 (parseContentLength value)
    if env.maxSize < capacity then (.lengthError socket, headers)
    else
      match socket.readBytes capacity cancel with
      | (none, next) => (.failed .chunkReadError [] "Cannot read chunk" next, headers)
      | (some data, next) => (.done data next, headers)
  else
    let (chunked, headers) :=
      if headers.find "Transfer-Encoding" ≠ none then
        let (value, headers) := headers.index "Transfer-Encoding"
        (decide (value = "chunked"), headers)
      else (false, headers)
    if chunked then (readChunks env cancel errorMsg IoState.goodbit 0 [] socket, headers)
    else if code = 204 then (.done [] socket, headers)
    else (.failed .cannotReadBody [] "Cannot read http body" socket, headers)

/-- Lines 399-417: the download size, the gzip stage and the final response. -/
def finishResponse (code : Int) (headers : WebSocketHttpHeaders) (payload : List Char)
    (uploadSize : Nat) : HttpResponse :=
  let (encoding, headers) := headers.index "Content-Encoding"
  if encoding = "gzip" then
    match env.gzipInflate payload with
    | none =>
        ⟨code, .gzip, headers, payload, "Error decompressing payload", uploadSize,
          payload.length⟩
    | some decompressed => ⟨code, .ok, headers, decompressed, "", uploadSize, payload.length⟩
  else ⟨code, .ok, headers, payload, "", uploadSize, payload.length⟩

/-- Lines 275-417, once the headers are read: the redirect check, the HEAD
short cut, the body and the gzip stage; `redirect location` is the recursive
call of line 297. -/
def handleResponse (redirect : String → Outcome × List TransportCall) (verb : String)
    (args : HttpRequestArgs) (redirects : Int) (cancel : CancellationRequest)
    (errorMsg : String) (uploadSize : Nat) (code : Int) (headers : WebSocketHttpHeaders)
    (socket : Socket) : Outcome × List TransportCall :=
  if 301 ≤ code ∧ code ≤ 308 ∧ args.followRedirects then
    if headers.find "Location" = none then
      (.response ⟨code, .missingLocation, headers, [], "Missing location header for redirect",
        uploadSize, 0⟩, socket.calls)
    else if args.maxRedirects ≤ redirects then
      (.response ⟨code, .tooManyRedirects, headers, [], "Too many redirects: " ++ toString redirects,
        uploadSize, 0⟩, socket.calls)
    else
      let (outcome, calls) := redirect (headers.index "Location").1
      (outcome, socket.calls ++ calls)
  else if verb = "HEAD" then
    (.response ⟨code, .ok, headers, [], "", uploadSize, 0⟩, socket.calls)
  else
    match readBody env cancel code headers errorMsg socket with
    | (.lengthError next, _) => (.lengthError, next.calls)
    | (.failed errorCode payload message next, headers) =>
        (.response ⟨code, errorCode, headers, payload, message, uploadSize, 0⟩, next.calls)
    | (.done payload next, headers) =>
        (.response (finishResponse env code headers payload uploadSize), next.calls)

/-- Lines 145-273, once the socket exists: build the request, connect, write,
read the status line and the headers, then hand over to `handleResponse`. -/
def sendRequest (redirect : String → Outcome × List TransportCall) (url verb body : String)
    (args : HttpRequestArgs) (redirects : Int) (target : Url) (errorMsg : String)
    (socket : Socket) : Outcome × List TransportCall :=
  let req := buildRequest verb target.path target.host body args StringMap.empty
  let connectCancel :=
    makeCancellationRequestWithTimeout args.connectTimeout .requestInitCancellation
  match socket.connect target.host target.port connectCancel with
  | (some errMsg, next) =>
      (.response ⟨0, .cannotConnect, StringMap.empty, [],
        "Cannot connect to url: " ++ url ++ " / error : " ++ errMsg, 0, 0⟩, next.calls)
  | (none, connected) =>
      let transferCancel :=
        makeCancellationRequestWithTimeout args.transferTimeout .requestInitCancellation
      match connected.writeBytes req transferCancel with
      | (false, next) =>
          (.response ⟨0, .sendError, StringMap.empty, [], "Cannot send request", 0, 0⟩,
            next.calls)
      | (true, sent) =>
          match sent.readLine transferCancel with
          | (none, next) =>
              (.response ⟨0, .cannotReadStatusLine, StringMap.empty, [],
                "Cannot retrieve status line", req.length, 0⟩, next.calls)
          | (some line, afterStatus) =>
              match scanStatusCode line with
              | none =>
                  (.response ⟨0, .missingStatus, StringMap.empty, [],
                    "Cannot parse response code from status line", req.length, 0⟩,
                    afterStatus.calls)
              | some code =>
                  match parseHttpHeaders transferCancel StringMap.empty afterStatus with
                  | (false, headers, next) =>
                      (.response ⟨code, .headerParsingError, headers, [],
                        "Cannot parse http headers", req.length, 0⟩, next.calls)
                  | (true, headers, next) =>
                      handleResponse env redirect verb args redirects transferCancel errorMsg
                        req.length code headers next

/-- `HttpClient::request(url, verb, body, args, redirects)`, entered by a
thread that does (`held`) or does not already hold `_mutex`. -/
def request (held : Bool) (url verb body : String) (args : HttpRequestArgs)
    (redirects : Int) : Outcome × List TransportCall :=
  if held then (.deadlock, [])
  else
    match env.parseUrl url with
    | none =>
        (.response ⟨0, .urlMalformed, StringMap.empty, [], "Cannot parse url: " ++ url, 0, 0⟩,
          [])
    | some target =>
        let hop := env.hop redirects
        if hop.socketCreated then
          sendRequest env (fun location => request true location verb body args (redirects + 1))
            url verb body args redirects target hop.errorMsg hop.socket
        else
          (.response ⟨0, .cannotCreateSocket, StringMap.empty, [], hop.errorMsg, 0, 0⟩, [])
termination_by if held then 0 else 1
decreasing_by simp_all

/-- `HttpClient::get(url, args)`. -/
def get (url : String) (args : HttpRequestArgs) : Outcome × List TransportCall :=
  request env false url kGet "" args 0

/-- `HttpClient::head(url, args)`. -/
def head (url : String) (args : HttpRequestArgs) : Outcome × List TransportCall :=
  request env false url kHead "" args 0

/-- `HttpClient::del(url, args)`. -/
def del (url : String) (args : HttpRequestArgs) : Outcome × List TransportCall :=
  request env false url kDel "" args 0

/-- `HttpClient::post(url, httpParameters, args)`. -/
def post (url : String) (httpParameters : HttpParameters) (args : HttpRequestArgs) :
    Outcome × List TransportCall :=
  request env false url kPost (serializeHttpParameters httpParameters) args 0

/-- `HttpClient::post(url, body, args)`. -/
def postBody (url body : String) (args : HttpRequestArgs) : Outcome × List TransportCall :=
  request env false url kPost body args 0

/-- `HttpClient::put(url, httpParameters, args)`. -/
def put (url : String) (httpParameters : HttpParameters) (args : HttpRequestArgs) :
    Outcome × List TransportCall :=
  request env false url kPut (serializeHttpParameters httpParameters) args 0

/-- `HttpClient::put(url, body, args)`. -/
def putBody (url body : String) (args : HttpRequestArgs) : Outcome × List TransportCall :=
  request env false url kPut body args 0

end HttpClient

end IxHttpClient
