import IxHttpClient.Traffic
import IxHttpClient.FormEncoding

/-!
# The request read back

The string `req` of lines 145-190 is an HTTP/1.1 message a server can read
with the transport's own readers: the request line up to its CR LF, the header
block up to the blank line, and then as many bytes as `Content-Length` gives.
Read so, it yields the request line, every header field the builder wrote
(a later value of a name winning), and for POST and PUT exactly the body;
for other verbs no `Content-Length` is written, the body `request` was handed
is not sent, and the reader stops at the blank line.  It holds when the parts
the caller controls keep the framing: no CR in the request line or a field,
no `:` in a field name, no blank opening a value, and no `Content-Length`
among the extra headers.  With the call's traffic and the form encoding this
closes the loop of a form POST: whatever `post` writes reaches a server as a
POST of the URL's path whose body decodes to the parameters sent.
-/

namespace IxHttpClient

namespace HttpClient

/-- The header fields of lines 148-181 as names and values, the defaults
written whatever `extraHeaders` holds, since they test the still empty
response map. -/
def requestFields (verb host body : String) (args : HttpRequestArgs) : List (String × String) :=
  ("Host", host) :: (if args.compress then [("Accept-Encoding", "gzip")] else []) ++
    args.extraHeaders.entries ++ [("Accept", "*/*"), ("User-Agent", "ixwebsocket")] ++
    (if verb = kPost ∨ verb = kPut then
      ("Content-Length", toString body.length) ::
        (if args.extraHeaders.find "Content-Type" = none then
          [("Content-Type", "application/x-www-form-urlencoded")] else [])
    else [])

theorem requestHeaderLines_eq_fields (verb host body : String) (args : HttpRequestArgs) :
    requestHeaderLines verb host body args StringMap.empty =
      (requestFields verb host body args).map fun field => field.1 ++ ": " ++ field.2 := by
  unfold requestHeaderLines requestFields
  simp only [StringMap.find_empty, if_true]
  split_ifs <;> simp

/-- The bytes of `req`: the request line, the header block of the fields and,
for POST and PUT, the body. -/
theorem buildRequest_data (verb path host body : String) (args : HttpRequestArgs) :
    (buildRequest verb path host body args StringMap.empty).data =
      (verb ++ " " ++ path ++ " HTTP/1.1").data ++ crlf ++
        headerBlock (requestFields verb host body args) ++
        (if verb = kPost ∨ verb = kPut then body.data else []) := by
  simp [buildRequest, requestHeaderLines_eq_fields, headerBlock, fieldLine, String.data_append,
    String.data_join, crlf, List.flatMap, Function.comp_def]
  split_ifs <;> rfl

theorem contentLength_framed (n : Nat) : FieldFramed ("Content-Length", toString n) := by
  refine ⟨show ':' ∉ "Content-Length".data by decide, show '\r' ∉ "Content-Length".data by decide,
    fun mem => ?_, fun head => ?_⟩
  · simpa [digitValue] using toString_digits n '\r' mem
  · simpa [digitValue] using toString_digits n ' ' (List.mem_of_mem_head? head)

theorem requestFields_framed {verb host body : String} {args : HttpRequestArgs}
    (hostFramed : FieldFramed ("Host", host))
    (extras : ∀ field ∈ args.extraHeaders.entries, FieldFramed field) :
    ∀ field ∈ requestFields verb host body args, FieldFramed field := by
  simp only [requestFields, List.forall_mem_cons, List.forall_mem_append]
  refine ⟨⟨⟨⟨hostFramed, ?_⟩, extras⟩, by decide, by decide, nofun⟩, ?_⟩
  · split_ifs
    · simpa using show FieldFramed ("Accept-Encoding", "gzip") by decide
    · exact nofun
  · split_ifs
    · simpa [contentLength_framed] using
        show FieldFramed ("Content-Type", "application/x-www-form-urlencoded") by decide
    · simpa using contentLength_framed body.length
    · exact nofun

/-- The builder's own `Content-Length` is the only one, and only POST and PUT
have it. -/
theorem find_requestFields_contentLength {verb host body : String} {args : HttpRequestArgs}
    (noLength : args.extraHeaders.find "Content-Length" = none) :
    (StringMap.ofList (requestFields verb host body args)).find "Content-Length" =
      if verb = kPost ∨ verb = kPut then some (toString body.length) else none := by
  have extras := (StringMap.lookup_eq_none_iff _ _).mp noLength
  split_ifs with sent
  · rw [requestFields, if_pos sent]
    exact StringMap.find_ofList_of_last _ _ (by split_ifs <;> simp)
  · rw [StringMap.find_ofList_eq_none_iff, requestFields, if_neg sent]
    split_ifs <;> simpa using extras

/-- How a server reads a request off a connection with the transport's own
readers: the request line, the header block, and then as many bytes as its
`Content-Length` field gives, or none without one. -/
def readRequest (cancel : CancellationRequest) (socket : Socket) :
    Option (List Char × WebSocketHttpHeaders × List Char) × Socket :=
  match socket.readLine cancel with
  | (none, next) => (none, next)
  | (some requestLine, afterLine) =>
      match parseHttpHeaders cancel StringMap.empty afterLine with
      | (false, _, next) => (none, next)
      | (true, headers, afterHeaders) =>
          match headers.find "Content-Length" with
          | none => (some (requestLine, headers, []), afterHeaders)
          | some value =>
              match afterHeaders.readBytes (wrap64 (parseContentLength value)) cancel with
              | (none, next) => (none, next)
              | (some body, next) => (some (requestLine, headers, body), next)

/-- What `readRequest` makes of a message framed the way it reads one: a
request line without CR, a header block of framed fields, and a body of the
length the last `Content-Length` field gives, or no body without one. -/
theorem readRequest_of_message (cancel : CancellationRequest) {line : List Char}
    (lineFramed : '\r' ∉ line) {fields : List (String × String)}
    (framed : ∀ field ∈ fields, FieldFramed field) {body : List Char}
    (sized : (StringMap.ofList fields).find "Content-Length" = some (toString body.length) ∨
      (StringMap.ofList fields).find "Content-Length" = none ∧ body = [])
    (small : body.length < 2 ^ 63) {socket : Socket} {rest : List Char}
    (incoming : socket.incoming = line ++ crlf ++ headerBlock fields ++ body ++ rest) :
    ∃ next : Socket, next.incoming = rest ∧
      readRequest cancel socket = (some (line, StringMap.ofList fields, body), next) := by
  obtain ⟨afterLine, lineIncoming, lineRead⟩ := Socket.exists_readLine lineFramed
    (by simpa [crlf] using incoming) cancel
  have headersRead := parseHttpHeaders_headerBlock cancel framed StringMap.empty afterLine _
    lineIncoming
  unfold readRequest
  rw [lineRead]
  dsimp only
  rw [headersRead]
  dsimp only
  rw [← StringMap.ofList]
  rcases sized with length | ⟨length, rfl⟩
  · rw [length]
    dsimp only
    rw [parseContentLength_toString small, wrap64_of_lt (by omega),
      Socket.readBytes_of_prefix rfl cancel]
    exact ⟨_, rfl, rfl⟩
  · rw [length]
    exact ⟨_, by simp, rfl⟩

/-- The request line of `req` has no CR when the verb and the path have none. -/
theorem requestLine_framed {verb path : String} (lineFramed : '\r' ∉ (verb ++ " " ++ path).data) :
    '\r' ∉ (verb ++ " " ++ path ++ " HTTP/1.1").data := by
  simpa [String.data_append] using lineFramed

/-- A form POST with no extra header. -/
def formPost : HttpRequestArgs :=
  ⟨"http://example.com/", kPost, "a=1", StringMap.empty, 60, 1800, false, 5, false⟩

section Form

/-- Without an extra `Content-Type`, the builder's default is the one a
server reads. -/
theorem find_requestFields_contentType {verb host body : String} {args : HttpRequestArgs}
    (sent : verb = kPost ∨ verb = kPut) (noType : args.extraHeaders.find "Content-Type" = none) :
    (StringMap.ofList (requestFields verb host body args)).find "Content-Type" =
      some "application/x-www-form-urlencoded" := by
  rw [requestFields, if_pos sent, if_pos noType, show ∀ fields : List (String × String),
    fields ++ [("Content-Length", toString body.length),
      ("Content-Type", "application/x-www-form-urlencoded")] =
        (fields ++ [("Content-Length", toString body.length)]) ++
          [("Content-Type", "application/x-www-form-urlencoded")] from fun _ => by simp]
  exact StringMap.find_ofList_of_last _ [] nofun

/-- The only request a call writes is `req` for the URL it parsed. -/
theorem writeBytes_mem_request {env : Environment} {url verb body : String}
    {args : HttpRequestArgs} {redirects : Int} {data : String} {cancel : CancellationRequest}
    (wrote : .writeBytes data cancel ∈ (request env false url verb body args redirects).2) :
    ∃ target, env.parseUrl url = some target ∧
      data = buildRequest verb target.path target.host body args StringMap.empty := by
  rcases request_traffic (@Prod.mk.eta _ _ (request env false url verb body args redirects)).symm with
    ⟨none, -⟩ | ⟨target, parsed, ⟨connected | written, -⟩ | ⟨reads, -, calls, only, -⟩⟩
  · rw [none] at wrote
    cases wrote
  · rw [connected] at wrote
    simp at wrote
  · rw [written] at wrote
    simp only [List.mem_cons, List.mem_singleton, List.not_mem_nil, or_false] at wrote
    rcases wrote with connect | ⟨rfl, -⟩
    · cases connect
    · exact ⟨target, parsed, rfl⟩
  · rw [calls] at wrote
    simp only [List.mem_cons] at wrote
    rcases wrote with connect | ⟨rfl, -⟩ | readLine | mem
    · cases connect
    · exact ⟨target, parsed, rfl⟩
    · cases readLine
    · cases only _ mem

/-- A form POST reaches the server as what it was meant to be: every request
`post` writes is read as a POST of the URL's path, labelled
`application/x-www-form-urlencoded` unless an extra header says otherwise,
whose body decodes to the parameter map's entries, in order; what follows on
the connection is left unread. -/
theorem post_parameters_reach_server (env : Environment) {url : String}
    {httpParameters : HttpParameters} {args : HttpRequestArgs} (bytes : httpParameters.IsBytes)
    {target : Url} (parsed : env.parseUrl url = some target)
    (lineFramed : '\r' ∉ (kPost ++ " " ++ target.path).data)
    (hostFramed : FieldFramed ("Host", target.host))
    (extras : ∀ field ∈ args.extraHeaders.entries, FieldFramed field)
    (noLength : args.extraHeaders.find "Content-Length" = none)
    (small : (serializeHttpParameters httpParameters).length < 2 ^ 63) {data : String}
    {writeCancel : CancellationRequest}
    (wrote : .writeBytes data writeCancel ∈ (post env url httpParameters args).2)
    (cancel : CancellationRequest) {socket : Socket} {rest : List Char}
    (incoming : socket.incoming = data.data ++ rest) :
    ∃ (next : Socket) (headers : WebSocketHttpHeaders) (body : List Char), next.incoming = rest ∧
      readRequest cancel socket =
        (some ((kPost ++ " " ++ target.path ++ " HTTP/1.1").data, headers, body), next) ∧
      (args.extraHeaders.find "Content-Type" = none →
        headers.find "Content-Type" = some "application/x-www-form-urlencoded") ∧
      decodeForm body = httpParameters.entries := by
  obtain ⟨target', parsed', rfl⟩ := writeBytes_mem_request wrote
  cases parsed.symm.trans parsed'
  rw [buildRequest_data, if_pos (.inl rfl)] at incoming
  obtain ⟨next, nextIncoming, read⟩ := readRequest_of_message cancel
    (requestLine_framed lineFramed) (requestFields_framed hostFramed extras)
    (.inl ((find_requestFields_contentLength noLength).trans (if_pos (.inl rfl)))) small
    (by simpa using incoming)
  exact ⟨next, _, _, nextIncoming, read, find_requestFields_contentType (.inl rfl),
    decodeForm_serializeHttpParameters bytes⟩

theorem search_form_reaches_server :
    ∃ (next : Socket) (headers : WebSocketHttpHeaders) (body : List Char), next.incoming = [] ∧
      readRequest ⟨.requestInitCancellation, 1800⟩
          ⟨none, true, (buildRequest kPost "/" "example.com"
            (serializeHttpParameters searchParameters) formPost StringMap.empty).data ++ [], []⟩ =
        (some ((kPost ++ " " ++ "/" ++ " HTTP/1.1").data, headers, body), next) ∧
      (formPost.extraHeaders.find "Content-Type" = none →
        headers.find "Content-Type" = some "application/x-www-form-urlencoded") ∧
      decodeForm body = searchParameters.entries := by
  obtain ⟨rest, calls⟩ := @request_calls_of_connected (Environment.serving ⟨[], []⟩ [])
    "http://example.com/" kPost (serializeHttpParameters searchParameters) formPost 0
    exampleTarget rfl rfl rfl
  refine post_parameters_reach_server _ (by decide) rfl (by decide) (by decide) (by decide)
    (by decide) (by decide) (calls ▸ List.mem_cons_of_mem _ (List.mem_cons_self _ _)) _ ?_
  rfl

end Form

end HttpClient

end IxHttpClient
