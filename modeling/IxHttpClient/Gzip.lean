import IxHttpClient.Stages
import Mathlib.Data.List.Infix

/-!
# Gzip decompression

`gzipInflate` (lines 513-560) hands the payload to zlib's `inflate` with
`avail_in` set to `(uInt) in.size()`, so `inflate` sees the first
`in.size() mod 2^32` bytes, and calls it with a 16 KiB output buffer until a
call leaves room in the buffer.  The loop fails only on `Z_NEED_DICT`,
`Z_DATA_ERROR` and `Z_MEM_ERROR`; it never asks for `Z_STREAM_END`.  On a
truncated member `inflate` writes what it decoded and returns `Z_OK` or
`Z_BUF_ERROR`, as zlib documents for input that may still go on, so
`gzipInflate` returns true with the part decoded so far and the response is
`Ok`.  A payload of exactly 2^32 bytes hands `inflate` no input at all, and
it is accepted whatever it holds.

`Zlib` gives the gzip format and zlib's decoder by their documented
contract: the valid members and what each decompresses to (RFC 1952), and
what `inflate` makes of the bytes it is handed.
-/

namespace IxHttpClient

/-- The return codes of `inflate`. -/
inductive InflateReturn where
  | ok
  | streamEnd
  | needDict
  | dataError
  | memError
  | bufError
deriving DecidableEq, Repr

/-- What the bytes handed to `inflate` are for the gzip format, with what
`inflate` writes from them. -/
inductive GzipScan where
  /-- They start with a complete, valid member that decompresses to `output`;
  what follows the member is left unread. -/
  | complete (output : List Char)
  /-- They are a proper prefix of a valid member and decode to `output`. -/
  | truncated (output : List Char)
  /-- They are no prefix of a valid member; `output` is what `inflate` writes
  before it finds the error. -/
  | corrupt (output : List Char)
deriving DecidableEq, Repr

namespace GzipScan

/-- The bytes `inflate` writes over the whole stream. -/
def output : GzipScan → List Char
  | .complete output | .truncated output | .corrupt output => output

/-- Whether `inflate` reads the stream without reporting an error. -/
def accepted : GzipScan → Bool
  | .corrupt _ => false
  | _ => true

end GzipScan

/-- zlib as `gzipInflate` uses it: the gzip format, what `inflate` makes of
the bytes it is handed, and whether `inflateInit2` succeeds. -/
structure Zlib where
  /-- `member` is a valid gzip member that decompresses to `output`. -/
  IsMember : List Char → List Char → Prop
  scan : List Char → GzipScan
  /-- A member followed by anything decodes to the member's output. -/
  scan_of_member : ∀ {member output : List Char}, IsMember member output →
    ∀ rest, scan (member ++ rest) = .complete output
  /-- A proper prefix of a member decodes to a prefix of its output. -/
  scan_of_prefix : ∀ {member output pre : List Char}, IsMember member output →
    pre <+: member → pre.length < member.length →
    ∃ part, part <+: output ∧ scan pre = .truncated part
  /-- Only bytes that start with a member decode completely. -/
  member_of_complete : ∀ {input output : List Char}, scan input = .complete output →
    ∃ member rest, IsMember member output ∧ input = member ++ rest
  /-- Only proper prefixes of members decode as truncated. -/
  member_of_truncated : ∀ {input output : List Char}, scan input = .truncated output →
    ∃ member whole, IsMember member whole ∧ input <+: member ∧ input.length < member.length
  /-- Whether `inflateInit2(&inflateState, 16+MAX_WBITS)` returns `Z_OK`. -/
  initialised : Bool

/-- `kBufferSize`, the output space of each call. -/
def kBufferSize : Nat := 1 <<< 14

/-- One call `inflate(&inflateState, Z_SYNC_FLUSH)` with `kBufferSize` bytes
of output space, on a stream that scans as `scan` and of whose output
`pending` is still to be written: the return code and the bytes written.
While more output remains than fits, it fills the buffer and returns `Z_OK`;
then it writes the rest and ends as the stream does: `Z_STREAM_END` after a
complete member, `Z_DATA_ERROR` on corrupt data, and on truncated data `Z_OK`,
or `Z_BUF_ERROR` when it has nothing to write.  A gzip stream needs no
dictionary, and allocation is taken to succeed. -/
def inflate (scan : GzipScan) (pending : List Char) : InflateReturn × List Char :=
  if kBufferSize < pending.length then (.ok, pending.take kBufferSize)
  else
    match scan with
    | .complete _ => (.streamEnd, pending)
    | .truncated _ => (if pending = [] then .bufError else .ok, pending)
    | .corrupt _ => (.dataError, pending)

theorem inflate_snd (scan : GzipScan) (pending : List Char) :
    (inflate scan pending).2 = pending.take kBufferSize := by
  unfold inflate
  by_cases long : kBufferSize < pending.length
  · rw [if_pos long]
  · rw [if_neg long, List.take_of_length_le (not_lt.mp long)]
    cases scan <;> rfl

/-- A call fails exactly on a corrupt stream once the rest of its output
fits. -/
theorem inflate_fails_iff (scan : GzipScan) (pending : List Char) :
    ((inflate scan pending).1 = .needDict ∨ (inflate scan pending).1 = .dataError ∨
      (inflate scan pending).1 = .memError) ↔
      scan.accepted = false ∧ pending.length ≤ kBufferSize := by
  unfold inflate
  by_cases long : kBufferSize < pending.length
  · simp [long, not_le.mpr long]
  · cases scan <;> simp [long, GzipScan.accepted, not_lt.mp long]
    split_ifs <;> simp

namespace HttpClient

/-- The do-while loop of lines 537-557 from a call with `pending` still to be
written, `out` holding what was appended before it. -/
def inflateLoop (scan : GzipScan) (pending out : List Char) : Bool × List Char :=
  match _called : inflate scan pending with
  | (ret, written) =>
      if ret = .needDict ∨ ret = .dataError ∨ ret = .memError then (false, out)
      else
        if _full : kBufferSize - written.length = 0 then inflateLoop scan (pending.drop written.length) (out ++ written)
        else (true, out ++ written)
termination_by pending.length
decreasing_by
  have written : pending.take kBufferSize = written := by
    rw [← inflate_snd scan pending, _called]
  subst written
  simp only [List.length_drop, List.length_take] at *
  have : 0 < kBufferSize := by decide
  omega

/-- One turn of the loop: it fails on a corrupt stream whose rest fits the
buffer, goes on while the buffer fills, and otherwise returns true with the
rest appended. -/
theorem inflateLoop_step (scan : GzipScan) (pending out : List Char) :
    inflateLoop scan pending out =
      if scan.accepted = false ∧ pending.length ≤ kBufferSize then (false, out)
      else if kBufferSize ≤ pending.length then
        inflateLoop scan (pending.drop kBufferSize) (out ++ pending.take kBufferSize)
      else (true, out ++ pending) := by
  rw [inflateLoop]
  split
  rename_i ret written called
  have taken : written = pending.take kBufferSize := by rw [← inflate_snd scan pending, called]
  have fails := inflate_fails_iff scan pending
  rw [called] at fails
  subst taken
  by_cases bad : scan.accepted = false ∧ pending.length ≤ kBufferSize
  · rw [if_pos (fails.mpr bad), if_pos bad]
  · rw [if_neg (mt fails.mp bad), if_neg bad]
    by_cases long : kBufferSize ≤ pending.length
    · rw [dif_pos (by simp [long]), if_pos long, List.length_take, min_eq_left long]
    · rw [dif_neg (by simp; omega), if_neg long, List.take_of_length_le (by omega)]

/-- On a stream `inflate` accepts, the loop appends all of its output. -/
theorem inflateLoop_of_accepted {scan : GzipScan} (accepted : scan.accepted = true) :
    ∀ pending out : List Char, inflateLoop scan pending out = (true, out ++ pending)
  | pending, out => by
    rw [inflateLoop_step, if_neg (by simp [accepted])]
    split_ifs with long
    · rw [inflateLoop_of_accepted accepted, List.append_assoc, List.take_append_drop]
    · rfl
termination_by pending => pending.length
decreasing_by
  have : 0 < kBufferSize := by decide
  simp only [List.length_drop]
  omega

/-- On a corrupt stream the loop fails. -/
theorem inflateLoop_of_rejected {scan : GzipScan} (rejected : scan.accepted = false) :
    ∀ pending out : List Char, (inflateLoop scan pending out).1 = false
  | pending, out => by
    rw [inflateLoop_step]
    split_ifs with fits long
    · rfl
    · exact inflateLoop_of_rejected rejected _ _
    · exact absurd ⟨rejected, by omega⟩ fits
termination_by pending => pending.length
decreasing_by
  have : 0 < kBufferSize := by decide
  simp only [List.length_drop]
  omega

/-- `HttpClient::gzipInflate(in, out)`: `inflate` is handed the first
`(uInt) in.size()` bytes of `input`. -/
def gzipInflate (zlib : Zlib) (input out : List Char) : Bool × List Char :=
  if zlib.initialised then
    let scan := zlib.scan (input.take (input.length % 2 ^ 32))
    inflateLoop scan scan.output out
  else (false, out)

end HttpClient

namespace Zlib

/-- What the gzip stage of lines 401-413 makes of a payload with
`gzipInflate` over `zlib`: the decompressed payload, or nothing when
`gzipInflate` fails. -/
def decompress (zlib : Zlib) (payload : List Char) : Option (List Char) :=
  match HttpClient.gzipInflate zlib payload [] with
  | (true, decompressed) => some decompressed
  | (false, _) => none

/-- `inflate` accepts exactly the bytes that start with a member or are a
proper prefix of one. -/
theorem accepted_iff (zlib : Zlib) (bytes : List Char) :
    (zlib.scan bytes).accepted = true ↔
      (∃ member output rest, zlib.IsMember member output ∧ bytes = member ++ rest) ∨
        ∃ member output, zlib.IsMember member output ∧ bytes <+: member ∧
          bytes.length < member.length := by
  constructor
  · intro accepted
    cases scanned : zlib.scan bytes with
    | complete output =>
        obtain ⟨member, rest, valid, split⟩ := zlib.member_of_complete scanned
        exact .inl ⟨member, output, rest, valid, split⟩
    | truncated output => exact .inr (zlib.member_of_truncated scanned)
    | corrupt output => simp [scanned, GzipScan.accepted] at accepted
  · rintro (⟨member, output, rest, valid, rfl⟩ | ⟨member, output, valid, prefixed, short⟩)
    · rw [zlib.scan_of_member valid rest]
      rfl
    · obtain ⟨part, -, scanned⟩ := zlib.scan_of_prefix valid prefixed short
      rw [scanned]
      rfl

/-- A format with a member accepts the empty input. -/
theorem accepted_nil (zlib : Zlib) {member output : List Char}
    (valid : zlib.IsMember member output) : (zlib.scan []).accepted = true := by
  rw [accepted_iff]
  cases member with
  | nil => exact .inl ⟨[], output, [], valid, rfl⟩
  | cons c rest => exact .inr ⟨c :: rest, output, valid, List.nil_prefix, by simp⟩

end Zlib

/-- The gzip member of the empty string: the ten-byte header, an empty final
block with fixed codes, and a CRC-32 and size of 0. -/
def emptyMember : List Char :=
  [0x1f, 0x8b, 8, 0, 0, 0, 0, 0, 0, 3, 3, 0, 0, 0, 0, 0, 0, 0, 0, 0].map Char.ofNat

/-- A zlib whose only member is `emptyMember`. -/
def emptyMemberZlib : Zlib where
  IsMember member output := member = emptyMember ∧ output = []
  scan bytes :=
    if emptyMember <+: bytes then .complete []
    else if bytes <+: emptyMember then .truncated [] else .corrupt []
  scan_of_member := by
    rintro _ _ ⟨rfl, rfl⟩ rest
    beta_reduce
    rw [if_pos (List.prefix_append _ rest)]
  scan_of_prefix := by
    rintro _ _ pre ⟨rfl, rfl⟩ prefixed short
    refine ⟨[], List.nil_prefix, ?_⟩
    beta_reduce
    rw [if_neg fun whole => absurd whole.length_le (not_le.mpr short), if_pos prefixed]
  member_of_complete := by
    intro input output scanned
    beta_reduce at scanned
    split_ifs at scanned with whole
    obtain ⟨rest, rfl⟩ := whole
    cases scanned
    exact ⟨emptyMember, rest, ⟨rfl, rfl⟩, rfl⟩
  member_of_truncated := by
    intro input output scanned
    beta_reduce at scanned
    split_ifs at scanned with whole part
    refine ⟨emptyMember, [], ⟨rfl, rfl⟩, part, lt_of_le_of_ne part.length_le fun same => ?_⟩
    exact whole (part.eq_of_length same ▸ List.prefix_refl _)
  initialised := true

namespace HttpClient

variable {zlib : Zlib}

theorem gzipInflate_of_accepted {input : List Char} (initialised : zlib.initialised = true)
    (accepted : (zlib.scan (input.take (input.length % 2 ^ 32))).accepted = true)
    (out : List Char) :
    gzipInflate zlib input out =
      (true, out ++ (zlib.scan (input.take (input.length % 2 ^ 32))).output) := by
  rw [gzipInflate, if_pos initialised]
  exact inflateLoop_of_accepted accepted _ _

theorem gzipInflate_fst (zlib : Zlib) (input out : List Char) :
    (gzipInflate zlib input out).1 =
      (zlib.initialised && (zlib.scan (input.take (input.length % 2 ^ 32))).accepted) := by
  cases initialised : zlib.initialised
  · simp [gzipInflate, initialised]
  · cases accepted : (zlib.scan (input.take (input.length % 2 ^ 32))).accepted
    · rw [gzipInflate, if_pos initialised]
      exact inflateLoop_of_rejected accepted _ _
    · rw [gzipInflate_of_accepted initialised accepted]
      rfl

/-- The gzip stage reports `Ok` with what `gzipInflate` wrote when it
succeeds. -/
theorem finishResponse_of_inflated {env : Environment} {code : Int}
    {headers : WebSocketHttpHeaders} {payload decompressed : List Char} (uploadSize : Nat)
    (gzipped : headers.find "Content-Encoding" = some "gzip")
    (inflated : env.gzipInflate payload = some decompressed) :
    finishResponse env code headers payload uploadSize =
      ⟨code, .ok, headers, decompressed, "", uploadSize, payload.length⟩ := by
  simp [finishResponse, StringMap.index_of_find_eq_some gzipped, inflated]

/-- With `inflateInit2` succeeding, `gzipInflate` accepts every proper prefix
of a valid member, of any length, returning a prefix of the member's output,
and the gzip stage then reports `Ok`; and it accepts every payload of exactly
2^32 bytes, which hands `inflate` no input. -/
theorem gzipInflate_accepts_truncated_members (zlib : Zlib)
    (initialised : zlib.initialised = true) {member output : List Char}
    (valid : zlib.IsMember member output) :
    (∀ body, body <+: member → body.length < member.length →
      ∃ part, part <+: output ∧ gzipInflate zlib body [] = (true, part) ∧
        ∀ env : Environment, env.gzipInflate = zlib.decompress →
          ∀ code headers uploadSize, headers.find "Content-Encoding" = some "gzip" →
            finishResponse env code headers body uploadSize =
              ⟨code, .ok, headers, part, "", uploadSize, body.length⟩) ∧
    ∀ input : List Char, input.length = 2 ^ 32 → (gzipInflate zlib input []).1 = true := by
  refine ⟨fun body prefixed short => ?_, fun input wrapped => ?_⟩
  · have seenPrefix : body.take (body.length % 2 ^ 32) <+: member :=
      (List.take_prefix _ body).trans prefixed
    obtain ⟨part, partPrefix, scanned⟩ := zlib.scan_of_prefix valid seenPrefix
      (lt_of_le_of_lt (List.take_prefix _ body).length_le short)
    have inflated : gzipInflate zlib body [] = (true, part) := by
      rw [gzipInflate_of_accepted initialised (by rw [scanned]; rfl), scanned]
      rfl
    refine ⟨part, partPrefix, inflated, fun env decompresses code headers uploadSize gzipped =>
      finishResponse_of_inflated uploadSize gzipped ?_⟩
    rw [decompresses, Zlib.decompress, inflated]
  · rw [gzipInflate_fst, wrapped, Nat.mod_self, List.take_zero, initialised,
      zlib.accepted_nil valid]
    rfl

theorem gzip_header_alone_accepted :
    emptyMemberZlib.initialised = true ∧ emptyMemberZlib.IsMember emptyMember [] ∧
      gzipInflate emptyMemberZlib (emptyMember.take 10) [] = (true, []) := by
  obtain ⟨part, partPrefix, inflated, -⟩ :=
    (gzipInflate_accepts_truncated_members emptyMemberZlib rfl
      (show emptyMemberZlib.IsMember emptyMember [] from ⟨rfl, rfl⟩)).1
      (emptyMember.take 10) (List.take_prefix _ _) (by decide)
  rw [List.prefix_nil.mp partPrefix] at inflated
  exact ⟨rfl, ⟨rfl, rfl⟩, inflated⟩

end HttpClient

end IxHttpClient
