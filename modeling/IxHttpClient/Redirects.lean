import IxHttpClient.Stages

/-!
# Redirects and the request lock

`request` takes `_mutex` with a `lock_guard` for its whole body, and follows a
redirect by calling itself at line 297 while that guard is still alive.
`_mutex` is a `std::mutex`, which is not recursive: the nested call's own
`lock_guard` waits for a lock its thread holds, so the first redirect that is
followed never returns.  The redirect budget therefore only matters when it
is zero or negative.
-/

namespace IxHttpClient

namespace HttpClient

variable {env : Environment}

/-- A followed redirect deadlocks: the nested call of line 297 blocks on the
`_mutex` its caller holds, before it parses the new URL. -/
theorem request_redirect_deadlocks {url verb body : String} {args : HttpRequestArgs}
    {redirects : Int} {target : Url} {reply : Reply} {code : Int} {rest : List Char}
    {location : String} (delivers : env.Delivers url redirects target reply rest)
    (status : scanStatusCode reply.statusLine = some code)
    (isRedirect : 301 ≤ code ∧ code ≤ 308) (follow : args.followRedirects = true)
    (located : (StringMap.ofList reply.fields).find "Location" = some location)
    (budget : redirects < args.maxRedirects) :
    (request env false url verb body args redirects).1 = .deadlock := by
  obtain ⟨socket, -, opened⟩ := request_eq_handleResponse delivers status
  rw [opened, handleResponse_of_redirect socket isRedirect follow located budget]
  simp

/-- A `301` reply that points to `/next`. -/
def movedReply : Reply :=
  ⟨"HTTP/1.1 301 Moved Permanently".data, [("Location", "http://example.com/next")]⟩

/-- A server that answers every hop with `movedReply`. -/
def redirectingServer : Environment :=
  Environment.serving movedReply []

/-- The arguments of a GET of `http://example.com/` that follows up to
`maxRedirects` redirects. -/
def followingArgs (maxRedirects : Int) : HttpRequestArgs :=
  ⟨"http://example.com/", kGet, "", StringMap.empty, 60, 1800, true, maxRedirects, false⟩

theorem get_follow_redirect_deadlocks :
    (request redirectingServer false "http://example.com/" kGet "" (followingArgs 5) 0).1 =
      .deadlock :=
  @request_redirect_deadlocks redirectingServer "http://example.com/" kGet ""
    (followingArgs 5) 0 exampleTarget movedReply 301 [] "http://example.com/next"
    (Environment.serving_delivers (by decide) [] _ 0) (by decide) (by decide) rfl (by decide)
    (by decide)

/-- The first followed redirect ends the call: with a budget of zero or less it
is refused with `TooManyRedirects`, carrying the first reply's status and
headers, and with any larger budget the call deadlocks before a second hop is
made, so no budget above zero ever produces `TooManyRedirects`. -/
theorem request_first_redirect {url verb body : String} {args : HttpRequestArgs}
    {target : Url} {reply : Reply} {code : Int} {rest : List Char} {location : String}
    (delivers : env.Delivers url 0 target reply rest)
    (status : scanStatusCode reply.statusLine = some code)
    (isRedirect : 301 ≤ code ∧ code ≤ 308) (follow : args.followRedirects = true)
    (located : (StringMap.ofList reply.fields).find "Location" = some location) :
    (request env false url verb body args 0).1 =
      if args.maxRedirects ≤ 0 then
        .response ⟨code, .tooManyRedirects, StringMap.ofList reply.fields, [],
          "Too many redirects: 0",
          (buildRequest verb target.path target.host body args StringMap.empty).length, 0⟩
      else .deadlock := by
  obtain ⟨socket, -, opened⟩ := request_eq_handleResponse delivers status
  rw [opened]
  split
  · rw [handleResponse_of_tooManyRedirects socket isRedirect follow located (by assumption)]
    rfl
  · rw [handleResponse_of_redirect socket isRedirect follow located (by omega)]
    simp

theorem get_first_redirect_budgets :
    (request redirectingServer false "http://example.com/" kGet "" (followingArgs 0) 0).1 =
        .response ⟨301, .tooManyRedirects, StringMap.ofList movedReply.fields, [],
          "Too many redirects: 0",
          (buildRequest kGet "/" "example.com" "" (followingArgs 0) StringMap.empty).length, 0⟩ ∧
      (request redirectingServer false "http://example.com/" kGet "" (followingArgs 1) 0).1 =
        .deadlock :=
  ⟨@request_first_redirect redirectingServer "http://example.com/" kGet ""
      (followingArgs 0) exampleTarget movedReply 301 [] "http://example.com/next"
      (Environment.serving_delivers (by decide) [] _ 0) (by decide) (by decide) rfl (by decide),
    @request_first_redirect redirectingServer "http://example.com/" kGet ""
      (followingArgs 1) exampleTarget movedReply 301 [] "http://example.com/next"
      (Environment.serving_delivers (by decide) [] _ 0) (by decide) (by decide) rfl (by decide)⟩

end HttpClient

end IxHttpClient
