import IxHttpClient.StringMap

/-!
# Building the wire request

Lines 145-190 of `HttpClient::request` write the request into a
`std::stringstream`: the request line, `Host`, the optional
`Accept-Encoding`, the caller's extra headers in map order, the default
`Accept` and `User-Agent` lines, and for POST and PUT the `Content-Length`,
the default `Content-Type` and the body.  The defaults are decided by lookups
in `headers`, the local that will later hold the response headers.  This file
also models the form encoding `post` and `put` apply to parameter maps.
-/

namespace IxHttpClient

/-- `HttpRequestArgs`: the fields of a request that `request` reads. -/
structure HttpRequestArgs where
  url : String
  verb : String
  body : String
  extraHeaders : WebSocketHttpHeaders
  connectTimeout : Int
  transferTimeout : Int
  followRedirects : Bool
  maxRedirects : Int
  compress : Bool
deriving DecidableEq

namespace HttpClient

/-- `HttpClient::kPost`. -/
def kPost : String := "POST"

/-- `HttpClient::kGet`. -/
def kGet : String := "GET"

/-- `HttpClient::kHead`. -/
def kHead : String := "HEAD"

/-- `HttpClient::kDel`. -/
def kDel : String := "DEL"

/-- `HttpClient::kPut`. -/
def kPut : String := "PUT"

/-- The header lines of lines 148-181, each without its CR LF. -/
def requestHeaderLines (verb host body : String) (args : HttpRequestArgs)
    (headers : WebSocketHttpHeaders) : List String :=
  ["Host: " ++ host] ++
    (if args.compress then ["Accept-Encoding: gzip"] else []) ++
    args.extraHeaders.entries.map (fun field => field.1 ++ ": " ++ field.2) ++
    (if headers.find "Accept" = none then ["Accept: */*"] else []) ++
    (if headers.find "User-Agent" = none then ["User-Agent: ixwebsocket"] else []) ++
    (if verb = kPost ∨ verb = kPut then
      ("Content-Length: " ++ toString body.length) ::
        (if args.extraHeaders.find "Content-Type" = none then
          ["Content-Type: application/x-www-form-urlencoded"] else [])
    else [])

/-- The string `req` of lines 145-190: the request line, the header lines, a
blank line, and for POST and PUT the body. -/
def buildRequest (verb path host body : String) (args : HttpRequestArgs)
    (headers : WebSocketHttpHeaders) : String :=
  verb ++ " " ++ path ++ " HTTP/1.1\r\n" ++
    String.join ((requestHeaderLines verb host body args headers).map (· ++ "\r\n")) ++
    "\r\n" ++ (if verb = kPost ∨ verb = kPut then body else "")

/-- `isalnum` in the "C" locale. -/
def isAlnum (c : Char) : Bool :=
  ('0' ≤ c ∧ c ≤ '9') ∨ ('a' ≤ c ∧ c ≤ 'z') ∨ ('A' ≤ c ∧ c ≤ 'Z')

/-- An uppercase hexadecimal digit, as `std::hex << std::uppercase` prints it. -/
def hexDigitUpper (d : Nat) : Char :=
  if d < 10 then Char.ofNat (48 + d) else Char.ofNat (55 + d)

/-- `urlEncode(value)`: alphanumerics and `-_.~` are kept, every other byte
becomes `%` and two uppercase hex digits (`setw(2)`, fill `0`). -/
def urlEncode (value : String) : String :=
  String.join (value.data.map fun c =>
    if isAlnum c || c = '-' || c = '_' || c = '.' || c = '~' then c.toString
    else String.mk ['%', hexDigitUpper (c.toNat % 256 / 16), hexDigitUpper (c.toNat % 256 % 16)])

/-- The loop of `serializeHttpParameters` from the pair at index `i` of `count`:
`key=value`, then `&` while `i < count - 1`. -/
def serializeFrom (count i : Nat) : List (String × String) → String
  | [] => ""
  | (key, value) :: rest =>
      urlEncode key ++ "=" ++ urlEncode value ++ (if i < count - 1 then "&" else "") ++
        serializeFrom count (i + 1) rest

/-- `serializeHttpParameters(httpParameters)`. -/
def serializeHttpParameters (httpParameters : HttpParameters) : String :=
  serializeFrom httpParameters.entries.length 0 httpParameters.entries

end HttpClient

end IxHttpClient
