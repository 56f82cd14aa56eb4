import IxHttpClient.Stages

/-!
# Framing the body

How lines 307-386 frame the body, on every stream.  Both lengths are read by
`operator>>`, which stores 0 when it finds no digit and leaves its variable
alone when it finds nothing at all.  So a malformed `Content-Length` or first
chunk size is read as 0 and the response is `Ok` with an empty payload; a
missing `Content-Length` value leaves `-1`, which `reserve` sees as a size
above `max_size()`.  The chunk loop reuses one `std::stringstream`: the first
size line is read to its end, which sets `eofbit`, and `ss.str("")` does not
clear it, so every later size is the uninitialised `chunkSize`.
-/

namespace IxHttpClient

namespace HttpClient

variable {env : Environment}

section ChunkLoop

variable {cancel : CancellationRequest} {errorMsg : String} {state : IoState}
  {iteration : Nat} {payload : List Char} {socket : Socket}

/-- An iteration on a stream that holds a size line read as the size of
`chunk`, then `chunk`, then a line. -/
theorem chunkStep_of_stream {line chunk trailer after : List Char}
    (incoming : socket.incoming =
      line ++ '\r' :: '\n' :: (chunk ++ (trailer ++ '\r' :: '\n' :: after)))
    (noCR : '\r' ∉ line)
    (sized : (parseChunkSize state line).2.getD (wrap64 (env.indeterminate iteration)) =
      chunk.length)
    (fits : wrap64 (payload.length + chunk.length) ≤ env.maxSize) :
    ∃ next : Socket, ('\r' ∉ trailer → next.incoming = after) ∧
      chunkStep env cancel errorMsg state iteration payload socket =
        if chunk.length = 0 then .finish (.done (payload ++ chunk) next)
        else .next (parseChunkSize state line).1 (payload ++ chunk) next := by
  obtain ⟨afterSize, sizeIncoming, sizeRead⟩ := Socket.exists_readLine noCR incoming cancel
  obtain ⟨afterChunk, chunkIncoming, chunkRead⟩ := Socket.exists_readBytes sizeIncoming cancel
  obtain ⟨trailerLine, next, trailerRead⟩ := Socket.readLine_of_crlf chunkIncoming cancel
  refine ⟨next, fun trailerNoCR => ?_,
    chunkStep_of_chunk sizeRead sized fits chunkRead trailerRead⟩
  obtain ⟨next', nextIncoming, trailerRead'⟩ :=
    Socket.exists_readLine trailerNoCR chunkIncoming cancel
  rw [trailerRead] at trailerRead'
  cases trailerRead'
  exact nextIncoming

end ChunkLoop

section Body

variable {cancel : CancellationRequest} {code : Int} {headers : WebSocketHttpHeaders}
  {errorMsg : String} {socket : Socket}

/-- A `Content-Length` value with no leading digit is read as 0: the body is
empty. -/
theorem readBody_of_malformed_contentLength {value : String}
    (length : headers.find "Content-Length" = some value)
    (malformed : NoLeadingDigit 10 value.data) :
    ∃ next, readBody env cancel code headers errorMsg socket = (.done [] next, headers) := by
  have zero : wrap64 (parseContentLength value) = ([] : List Char).length := by
    rw [parseContentLength_of_noLeadingDigit malformed]
    rfl
  obtain ⟨next, -, read⟩ := @Socket.exists_readBytes socket [] socket.incoming rfl cancel
  rw [← zero] at read
  exact ⟨next, readBody_of_contentLength_read length (by simp [zero]) read⟩

/-- A first chunk-size line with no leading hex digit is read as 0: the loop
reads no byte, reads one more line as the chunk's trailer, and stops. -/
theorem readBody_of_malformed_chunkSize {line trailer after : List Char}
    (noLength : headers.find "Content-Length" = none)
    (chunked : headers.find "Transfer-Encoding" = some "chunked")
    (incoming : socket.incoming = line ++ '\r' :: '\n' :: (trailer ++ '\r' :: '\n' :: after))
    (noCR : '\r' ∉ line) (malformed : NoLeadingDigit 16 line) :
    ∃ next, readBody env cancel code headers errorMsg socket = (.done [] next, headers) := by
  have sized : (parseChunkSize IoState.goodbit line).2.getD (wrap64 (env.indeterminate 0)) =
      ([] : List Char).length := by
    rw [(parseChunkSize_of_noLeadingDigit IoState.good_goodbit malformed).1]
    rfl
  obtain ⟨next, -, step⟩ := @chunkStep_of_stream env cancel errorMsg IoState.goodbit 0 [] socket
    line [] trailer after incoming noCR sized (by simp [wrap64])
  rw [readBody_of_chunked socket noLength chunked, readChunks_of_finish (step.trans (if_pos rfl))]
  exact ⟨next, rfl⟩

/-- A negative `Content-Length` becomes a `size_t` of at least `2^63`, above
`max_size()`: `reserve` throws. -/
theorem readBody_of_negative_contentLength {value : String}
    (length : headers.find "Content-Length" = some value)
    (negative : parseContentLength value < 0) :
    readBody env cancel code headers errorMsg socket = (.lengthError socket, headers) :=
  readBody_of_contentLength_overflow length
    (lt_of_lt_of_le env.maxSize_lt (wrap64_of_neg (parseContentLength_ge value) negative))

/-- Two chunks or more: the first size line is read to its end, which leaves
`eofbit` set, so the second iteration extracts nothing and uses the
uninitialised `chunkSize`.  When that holds 0, the loop reads no byte, takes
the second chunk's first line as a trailer, and stops with the first chunk. -/
theorem readBody_of_two_chunks {size₁ chunk₁ size₂ chunk₂ after : List Char}
    (noLength : headers.find "Content-Length" = none)
    (chunked : headers.find "Transfer-Encoding" = some "chunked")
    (incoming : socket.incoming = size₁ ++ '\r' :: '\n' :: (chunk₁ ++ '\r' :: '\n' ::
      (size₂ ++ '\r' :: '\n' :: (chunk₂ ++ '\r' :: '\n' :: after))))
    (numeral₁ : HexNumeral size₁ chunk₁.length) (noCR₂ : '\r' ∉ size₂)
    (nonempty : chunk₁ ≠ []) (fits : chunk₁.length ≤ env.maxSize)
    (uninitialised : env.indeterminate 1 = 0) :
    ∃ next,
      readBody env cancel code headers errorMsg socket = (.done chunk₁ next, headers) := by
  have small : chunk₁.length < 2 ^ 64 := by
    have := env.maxSize_lt
    omega
  have parsed₁ := parseChunkSize_of_hexNumeral IoState.good_goodbit numeral₁ small
  have sized₁ : (parseChunkSize IoState.goodbit size₁).2.getD (wrap64 (env.indeterminate 0)) =
      chunk₁.length := by
    rw [parsed₁]
    rfl
  obtain ⟨afterFirst, firstIncoming, first⟩ := @chunkStep_of_stream env cancel errorMsg
    IoState.goodbit 0 [] socket size₁ chunk₁ [] _ incoming numeral₁.cr_not_mem sized₁
    (by simpa [wrap64_of_lt small] using fits)
  have sized₂ : (parseChunkSize ⟨true, false⟩ size₂).2.getD (wrap64 (env.indeterminate 1)) =
      ([] : List Char).length := by
    rw [parseChunkSize_of_not_good (show IoState.good ⟨true, false⟩ = false from rfl),
      uninitialised]
    rfl
  obtain ⟨next, -, second⟩ := @chunkStep_of_stream env cancel errorMsg ⟨true, false⟩ 1
    chunk₁ afterFirst size₂ [] chunk₂ after (firstIncoming (List.not_mem_nil _)) noCR₂
    sized₂ (by simpa [wrap64_of_lt small] using fits)
  rw [parsed₁, if_neg (by simpa using nonempty), List.nil_append] at first
  rw [readBody_of_chunked socket noLength chunked, readChunks_of_next first,
    readChunks_of_finish (second.trans (if_pos rfl)), List.append_nil]
  exact ⟨next, rfl⟩

end Body

section Request

variable {url verb body : String} {args : HttpRequestArgs} {redirects : Int} {target : Url}
  {reply : Reply} {code : Int}

/-- A malformed length field is read as 0 and the response is `Ok` with an
empty payload: a `Content-Length` value with no leading decimal digit, or a
first chunk-size line with no leading hex digit followed by any line. -/
theorem request_malformed_length_ok {rest : List Char}
    (delivers : env.Delivers url redirects target reply rest)
    (status : scanStatusCode reply.statusLine = some code)
    (notFollowed : ¬ (301 ≤ code ∧ code ≤ 308 ∧ args.followRedirects = true))
    (notHead : verb ≠ "HEAD")
    (plain : (StringMap.ofList reply.fields).find "Content-Encoding" = none)
    (malformed :
      (∃ value, (StringMap.ofList reply.fields).find "Content-Length" = some value ∧
        NoLeadingDigit 10 value.data) ∨
      ((StringMap.ofList reply.fields).find "Content-Length" = none ∧
        (StringMap.ofList reply.fields).find "Transfer-Encoding" = some "chunked" ∧
        ∃ line trailer after, rest = line ++ '\r' :: '\n' :: (trailer ++ '\r' :: '\n' :: after) ∧
          '\r' ∉ line ∧ NoLeadingDigit 16 line)) :
    (request env false url verb body args redirects).1 =
      .response ⟨code, .ok, (StringMap.ofList reply.fields).insert "Content-Encoding" "", [], "",
        (buildRequest verb target.path target.host body args StringMap.empty).length, 0⟩ := by
  have empty : ∀ socket : Socket, socket.incoming = rest → ∃ next, readBody env
      (makeCancellationRequestWithTimeout args.transferTimeout .requestInitCancellation) code
      (StringMap.ofList reply.fields) (env.hop redirects).errorMsg socket =
        (.done [] next, StringMap.ofList reply.fields) := by
    intro socket incoming
    rcases malformed with ⟨value, length, noDigit⟩ |
      ⟨noLength, chunked, line, trailer, after, shape, noCR, noDigit⟩
    · exact readBody_of_malformed_contentLength length noDigit
    · exact readBody_of_malformed_chunkSize noLength chunked (incoming.trans shape) noCR noDigit
  rw [request_of_body_done delivers status notFollowed notHead empty,
    finishResponse_of_no_encoding _ _ plain]
  rfl

/-- A `200` reply whose `Content-Length` is not a number. -/
def garbledLengthReply : Reply :=
  ⟨"HTTP/1.1 200 OK".data, [("Content-Length", "abc")]⟩

theorem get_garbled_length_ok :
    (request (Environment.serving garbledLengthReply "hello".data) false "http://example.com/"
        kGet "" plainGet 0).1 =
      .response ⟨200, .ok, (StringMap.ofList garbledLengthReply.fields).insert "Content-Encoding" "",
        [], "", (buildRequest kGet "/" "example.com" "" plainGet StringMap.empty).length, 0⟩ :=
  @request_malformed_length_ok (Environment.serving garbledLengthReply "hello".data)
    "http://example.com/" kGet "" plainGet 0 exampleTarget garbledLengthReply 200 "hello".data
    (Environment.serving_delivers (by decide) _ _ 0) (by decide) (by decide) (by decide)
    (by decide) (.inl ⟨"abc", by decide, by decide⟩)

/-- A chunked body of two chunks or more yields its first chunk only, when the
uninitialised `chunkSize` of the second iteration holds 0: the second size
line is never parsed. -/
theorem request_chunked_keeps_first_chunk {size₁ chunk₁ size₂ chunk₂ tail : List Char}
    {more : List (List Char × List Char)}
    (delivers : env.Delivers url redirects target reply
      (chunkedBody ((size₁, chunk₁) :: (size₂, chunk₂) :: more) ++ tail))
    (status : scanStatusCode reply.statusLine = some code)
    (notFollowed : ¬ (301 ≤ code ∧ code ≤ 308 ∧ args.followRedirects = true))
    (notHead : verb ≠ "HEAD")
    (noLength : (StringMap.ofList reply.fields).find "Content-Length" = none)
    (chunked : (StringMap.ofList reply.fields).find "Transfer-Encoding" = some "chunked")
    (plain : (StringMap.ofList reply.fields).find "Content-Encoding" = none)
    (numeral₁ : HexNumeral size₁ chunk₁.length) (numeral₂ : HexNumeral size₂ chunk₂.length)
    (nonempty : chunk₁ ≠ []) (fits : chunk₁.length ≤ env.maxSize)
    (uninitialised : env.indeterminate 1 = 0) :
    (request env false url verb body args redirects).1 =
      .response ⟨code, .ok, (StringMap.ofList reply.fields).insert "Content-Encoding" "", chunk₁,
        "", (buildRequest verb target.path target.host body args StringMap.empty).length,
        chunk₁.length⟩ := by
  have shape : chunkedBody ((size₁, chunk₁) :: (size₂, chunk₂) :: more) ++ tail =
      size₁ ++ '\r' :: '\n' :: (chunk₁ ++ '\r' :: '\n' ::
        (size₂ ++ '\r' :: '\n' :: (chunk₂ ++ '\r' :: '\n' :: (chunkedBody more ++ tail)))) := by
    simp
  rw [request_of_body_done delivers status notFollowed notHead fun socket incoming =>
      readBody_of_two_chunks noLength chunked (incoming.trans shape) numeral₁
        numeral₂.cr_not_mem nonempty fits uninitialised,
    finishResponse_of_no_encoding _ _ plain]

/-- A chunked `200` reply. -/
def chunkedReply : Reply :=
  ⟨"HTTP/1.1 200 OK".data, [("Transfer-Encoding", "chunked")]⟩

theorem get_two_chunks_keeps_first :
    (request (Environment.serving chunkedReply (chunkedBody [("5".data, "hello".data),
        ("2".data, "ab".data)])) false "http://example.com/" kGet "" plainGet 0).1 =
      .response ⟨200, .ok, (StringMap.ofList chunkedReply.fields).insert "Content-Encoding" "",
        "hello".data, "", (buildRequest kGet "/" "example.com" "" plainGet StringMap.empty).length,
        5⟩ :=
  @request_chunked_keeps_first_chunk (Environment.serving chunkedReply
      (chunkedBody [("5".data, "hello".data), ("2".data, "ab".data)])) "http://example.com/" kGet
    "" plainGet 0 exampleTarget chunkedReply 200 "5".data "hello".data "2".data "ab".data [] []
    ((List.append_nil _).symm ▸ Environment.serving_delivers (by decide) _ _ 0) (by decide)
    (by decide) (by decide) (by decide) (by decide) (by decide)
    ⟨by decide, by decide, by decide⟩ ⟨by decide, by decide, by decide⟩
    (by decide) (by decide) rfl

/-- A negative `Content-Length` makes `reserve` throw `std::length_error`,
which nothing in `request` catches. -/
theorem request_negative_length_throws {rest : List Char} {value : String}
    (delivers : env.Delivers url redirects target reply rest)
    (status : scanStatusCode reply.statusLine = some code)
    (notFollowed : ¬ (301 ≤ code ∧ code ≤ 308 ∧ args.followRedirects = true))
    (notHead : verb ≠ "HEAD")
    (length : (StringMap.ofList reply.fields).find "Content-Length" = some value)
    (negative : parseContentLength value < 0) :
    (request env false url verb body args redirects).1 = .lengthError :=
  request_of_body_lengthError delivers status notFollowed notHead fun socket _ =>
    ⟨socket, _, readBody_of_negative_contentLength length negative⟩

/-- A `200` reply with `Content-Length: -1`. -/
def negativeLengthReply : Reply :=
  ⟨"HTTP/1.1 200 OK".data, [("Content-Length", "-1")]⟩

theorem get_negative_length_throws :
    (request (Environment.serving negativeLengthReply []) false "http://example.com/" kGet ""
      plainGet 0).1 = .lengthError :=
  @request_negative_length_throws (Environment.serving negativeLengthReply [])
    "http://example.com/" kGet "" plainGet 0 exampleTarget negativeLengthReply 200 [] "-1"
    (Environment.serving_delivers (by decide) _ _ 0) (by decide) (by decide) (by decide)
    (by decide) (by decide)

end Request

end HttpClient

end IxHttpClient
