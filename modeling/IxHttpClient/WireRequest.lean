import IxHttpClient.Paths

/-!
# The request on the wire

Lines 148-181 decide the default `Accept` and `User-Agent` lines by looking
the names up in `headers`.  That map is the local which will later receive the
response headers, and it is still empty when the request is built, so both
defaults are written whatever `extraHeaders` holds: a caller's own `Accept`
or `User-Agent` line is followed by the default one.
-/

namespace IxHttpClient

namespace HttpClient

variable {env : Environment}

/-- The header lines as the builder writes them: the defaults do not depend
on `extraHeaders`. -/
theorem requestHeaderLines_empty (verb host body : String) (args : HttpRequestArgs) :
    requestHeaderLines verb host body args StringMap.empty =
      ["Host: " ++ host] ++ (if args.compress then ["Accept-Encoding: gzip"] else []) ++
        args.extraHeaders.entries.map (fun field => field.1 ++ ": " ++ field.2) ++
        ["Accept: */*", "User-Agent: ixwebsocket"] ++
        (if verb = kPost ∨ verb = kPut then
          ("Content-Length: " ++ toString body.length) ::
            (if args.extraHeaders.find "Content-Type" = none then
              ["Content-Type: application/x-www-form-urlencoded"] else [])
        else []) := by
  simp [requestHeaderLines]

/-- An extra header is written once as given, and again as the builder's
default when the builder has a default for its name. -/
theorem extraHeader_sublist {verb host body : String} {args : HttpRequestArgs} {key value : String}
    (supplied : args.extraHeaders.find key = some value) (fallback : String)
    (defaulted : key ++ ": " ++ fallback ∈ ["Accept: */*", "User-Agent: ixwebsocket"]) :
    List.Sublist [key ++ ": " ++ value, key ++ ": " ++ fallback]
      (requestHeaderLines verb host body args StringMap.empty) := by
  have extra : List.Sublist [key ++ ": " ++ value]
      (args.extraHeaders.entries.map (fun field => field.1 ++ ": " ++ field.2)) :=
    List.singleton_sublist.mpr
      (List.mem_map.mpr ⟨(key, value), StringMap.mem_entries_of_find_eq_some supplied, rfl⟩)
  have default :
      List.Sublist [key ++ ": " ++ fallback] ["Accept: */*", "User-Agent: ixwebsocket"] :=
    List.singleton_sublist.mpr defaulted
  rw [requestHeaderLines_empty]
  refine List.Sublist.trans ?_ (List.sublist_append_left _ _)
  rw [List.append_assoc _ (args.extraHeaders.entries.map _)]
  exact (extra.append default).trans (List.sublist_append_right _ _)

/-- A request that supplies its own `Accept` header sends two `Accept`
lines: right after `connect`, `writeBytes` sends `req`, whose header lines
hold the caller's line and then the default `Accept: */*`. -/
theorem request_sends_two_accept_lines {url verb body : String} {args : HttpRequestArgs}
    {redirects : Int} {target : Url} {accept : String}
    (parsed : env.parseUrl url = some target)
    (created : (env.hop redirects).socketCreated = true)
    (connected : (env.hop redirects).connectError = none)
    (supplied : args.extraHeaders.find "Accept" = some accept) :
    ∃ rest : List TransportCall, (request env false url verb body args redirects).2 =
        .connect target.host target.port
            (makeCancellationRequestWithTimeout args.connectTimeout .requestInitCancellation) ::
          .writeBytes (buildRequest verb target.path target.host body args StringMap.empty)
            (makeCancellationRequestWithTimeout args.transferTimeout .requestInitCancellation) :: rest ∧
      List.Sublist ["Accept: " ++ accept, "Accept: */*"]
        (requestHeaderLines verb target.host body args StringMap.empty) := by
  obtain ⟨rest, calls⟩ :=
    @request_calls_of_connected env url verb body args redirects target parsed created connected
  exact ⟨rest, calls, extraHeader_sublist supplied "*/*" (by simp)⟩

/-- A server that accepts every connection and sends nothing. -/
def silentServer : Environment :=
  Environment.serving ⟨[], []⟩ []

/-- A DELETE that asks for JSON. -/
def jsonDelete : HttpRequestArgs :=
  ⟨"http://example.com/", kDel, "", StringMap.ofList [("Accept", "application/json")], 60, 1800,
    false, 5, false⟩

theorem del_sends_two_accept_lines :
    (∃ rest : List TransportCall, (del silentServer "http://example.com/" jsonDelete).2 =
        .connect "example.com" 80 (makeCancellationRequestWithTimeout 60 .requestInitCancellation) ::
          .writeBytes (buildRequest kDel "/" "example.com" "" jsonDelete StringMap.empty)
            (makeCancellationRequestWithTimeout 1800 .requestInitCancellation) :: rest ∧
      List.Sublist ["Accept: application/json", "Accept: */*"]
        (requestHeaderLines kDel "example.com" "" jsonDelete StringMap.empty)) ∧
    buildRequest kDel "/" "example.com" "" jsonDelete StringMap.empty =
      "DEL / HTTP/1.1\r\nHost: example.com\r\nAccept: application/json\r\nAccept: */*\r\n" ++
        "User-Agent: ixwebsocket\r\n\r\n" :=
  ⟨@request_sends_two_accept_lines silentServer "http://example.com/" kDel "" jsonDelete 0
      exampleTarget "application/json" rfl rfl rfl (by decide),
    by decide⟩

end HttpClient

end IxHttpClient
