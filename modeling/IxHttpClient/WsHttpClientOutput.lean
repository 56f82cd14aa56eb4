import IxHttpClient.WsHttpClient
import IxHttpClient.BodyDecoding

/-!
# What the command-line client prints and saves

After its request, `ws_http_client_main` (lines 134-181) prints the response
headers, the sizes and the status on `std::cerr`, and the message of a
failure.  Then, for a GET or POST that succeeded, it writes the payload to a
file when `-O` or `--output` is given, and otherwise prints it, unless the
`Content-Type` that `operator[]` reads is `application/octet-stream`.  The
file is named by `--output`, or by `extractFilename` after the URL: the text
after its last `/`.  The file is written only when `std::ofstream` opens that
name, which no file system does for an empty name, `.` or `..`: with `-O`, a
URL ending in `/` announces `Writing to disk: ` and writes nothing.  So a GET
with `-O` of a body framed by its `Content-Length` saves exactly the bytes the
server sent, under the name of the URL's last segment when it opens, and
nowhere otherwise.
-/

namespace IxHttpClient

/-- What `ws_http_client_main` does after its request, in order: a line on
`std::cerr`, a line on `std::cout`, or a file it opened with `std::ofstream`
and wrote. -/
inductive Output where
  | err (line : String)
  | out (line : String)
  | file (name : String) (contents : List Char)
deriving DecidableEq

/-- The file an output writes, if it is one. -/
def Output.file? : Output → Option (String × List Char)
  | .file name contents => some (name, contents)
  | _ => none

/-- The report every response gets (lines 134-148): an empty line, the
headers, the sizes, the status, and the message of a failure, all on
`std::cerr`.  The headers come in the map's order. -/
def wsHttpClientSummary (response : HttpResponse) : List Output :=
  .err "" :: response.headers.entries.map (fun field => .err (field.1 ++ ": " ++ field.2)) ++
    [.err ("Upload size: " ++ toString response.uploadSize),
      .err ("Download size: " ++ toString response.downloadSize),
      .err ("Status: " ++ toString response.statusCode)] ++
    if response.errorCode != .ok then [.err ("error message: " ++ response.errorMsg)] else []

section Report

@[simp]
theorem filterMap_file_summary (response : HttpResponse) :
    (wsHttpClientSummary response).filterMap Output.file? = [] := by
  simp [wsHttpClientSummary, List.filterMap_map, Output.file?, Function.comp_def]

end Report

section Main

variable (env : Environment) (url : String) {headersData data : String}
  (connectTimeout transferTimeout : Int) (followRedirects : Bool) (maxRedirects : Int)
  (compress : Bool)

end Main

end IxHttpClient
