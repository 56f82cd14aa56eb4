import IxHttpClient.StringMap

/-!
# The transport session

The socket layer (`Socket`, `createSocket`, `parseHttpHeaders`) and
`makeCancellationRequestWithTimeout` are declared outside the repository's
sources; §2, §5 and §6 of the spec give their contract.  A `Socket` here is
one connection: whether connect and write succeed, the bytes the server sends
before it closes, and the log of every primitive `request` has called on it,
each with the cancellation predicate it was passed.
-/

namespace IxHttpClient

/-- The line terminator of the wire format. -/
def crlf : List Char := ['\r', '\n']

/-- The `std::atomic<bool>` flags a cancellation predicate can read. -/
inductive CancellationFlag where
  /-- `request`'s local `requestInitCancellation`, initialised to `false`. -/
  | requestInitCancellation
  /-- `HttpClient::_stop`. -/
  | stop
deriving DecidableEq, Repr

/-- A predicate made by `makeCancellationRequestWithTimeout(timeout, flag)`. -/
structure CancellationRequest where
  flag : CancellationFlag
  timeout : Int
deriving DecidableEq, Repr

/-- `makeCancellationRequestWithTimeout`.  Modelled from the spec: the
predicate is the disjunction of its flag and of its deadline, and a
non-positive timeout means no deadline. -/
def makeCancellationRequestWithTimeout (timeout : Int) (flag : CancellationFlag) :
    CancellationRequest :=
  ⟨flag, timeout⟩

/-- Polling a predicate `elapsed` time units after it was made, when the
atomics hold `flags`. -/
def CancellationRequest.isCancellationRequested (cancel : CancellationRequest)
    (flags : CancellationFlag → Bool) (elapsed : Nat) : Bool :=
  flags cancel.flag || (decide (0 < cancel.timeout) && decide (cancel.timeout < elapsed))

/-- A transport primitive `request` invokes, with the predicate it passes. -/
inductive TransportCall where
  | connect (host : String) (port : Int) (cancel : CancellationRequest)
  | writeBytes (data : String) (cancel : CancellationRequest)
  | readLine (cancel : CancellationRequest)
  | readBytes (length : Nat) (cancel : CancellationRequest)
deriving DecidableEq, Repr

/-- The cancellation predicate a primitive was passed. -/
def TransportCall.cancel : TransportCall → CancellationRequest
  | .connect _ _ cancel => cancel
  | .writeBytes _ cancel => cancel
  | .readLine cancel => cancel
  | .readBytes _ cancel => cancel

/-- One connection as §6 sees it: the result of `connect`, whether
`writeBytes` succeeds, the bytes still to arrive, and the calls made so far. -/
structure Socket where
  connectError : Option String
  writeSucceeds : Bool
  incoming : List Char
  calls : List TransportCall
deriving DecidableEq, Repr

/-- The next line of `cs` without its CR LF terminator, and what follows. -/
def splitLine : List Char → Option (List Char × List Char)
  | [] => none
  | c :: rest =>
      if c = '\r' ∧ rest.head? = some '\n' then some ([], rest.tail)
      else (splitLine rest).map fun split => (c :: split.1, split.2)

@[simp]
theorem crlf_append (rest : List Char) : crlf ++ rest = '\r' :: '\n' :: rest :=
  rfl

theorem splitLine_append_crlf {line : List Char} (noCR : '\r' ∉ line) (rest : List Char) :
    splitLine (line ++ '\r' :: '\n' :: rest) = some (line, rest) := by
  induction line with
  | nil => simp [splitLine]
  | cons c line ih =>
      have notCR : c ≠ '\r' := fun same => noCR (by simp [same])
      simp [splitLine, notCR, ih (fun mem => noCR (by simp [mem]))]

/-- A stream that holds a CR LF somewhere yields a line. -/
theorem splitLine_isSome_of_crlf (line rest : List Char) :
    (splitLine (line ++ '\r' :: '\n' :: rest)).isSome := by
  induction line with
  | nil => simp [splitLine]
  | cons c line ih =>
      rw [List.cons_append, splitLine]
      split_ifs
      · rfl
      · simpa using ih

theorem splitLine_length {cs line rest : List Char} (split : splitLine cs = some (line, rest)) :
    line.length + rest.length + 2 = cs.length := by
  induction cs generalizing line rest with
  | nil => simp [splitLine] at split
  | cons c cs ih =>
      unfold splitLine at split
      split_ifs at split with terminator
      · obtain ⟨rfl, rfl⟩ := Option.some.inj split |> Prod.mk.inj
        cases cs with
        | nil => simp at terminator
        | cons d ds => simp
      · obtain ⟨⟨line', rest'⟩, found, image⟩ := Option.map_eq_some'.mp split
        obtain ⟨rfl, rfl⟩ := Prod.mk.inj image
        simp [← ih found]
        omega

namespace Socket

/-- Append a call to the log. -/
def record (socket : Socket) (call : TransportCall) : Socket :=
  { socket with calls := socket.calls ++ [call] }

/-- `connect(host, port, errMsg, isCancellationRequested)`: the error, if any. -/
def connect (socket : Socket) (host : String) (port : Int) (cancel : CancellationRequest) :
    Option String × Socket :=
  (socket.connectError, socket.record (.connect host port cancel))

/-- `writeBytes(req, isCancellationRequested)`. -/
def writeBytes (socket : Socket) (data : String) (cancel : CancellationRequest) :
    Bool × Socket :=
  (socket.writeSucceeds, socket.record (.writeBytes data cancel))

/-- `readLine(isCancellationRequested)`: the next line without its terminator;
it fails when the connection closes before a CR LF. -/
def readLine (socket : Socket) (cancel : CancellationRequest) :
    Option (List Char) × Socket :=
  match splitLine socket.incoming with
  | some (line, rest) => (some line, { socket.record (.readLine cancel) with incoming := rest })
  | none => (none, { socket.record (.readLine cancel) with incoming := [] })

/-- `readBytes(length, onProgressCallback, isCancellationRequested)`: the next
`length` bytes; it fails when the connection closes before they arrive. -/
def readBytes (socket : Socket) (length : Nat) (cancel : CancellationRequest) :
    Option (List Char) × Socket :=
  if length ≤ socket.incoming.length then
    (some (socket.incoming.take length),
      { socket.record (.readBytes length cancel) with incoming := socket.incoming.drop length })
  else (none, { socket.record (.readBytes length cancel) with incoming := [] })

@[simp]
theorem record_connectError (socket : Socket) (call : TransportCall) :
    (socket.record call).connectError = socket.connectError :=
  rfl

@[simp]
theorem record_writeSucceeds (socket : Socket) (call : TransportCall) :
    (socket.record call).writeSucceeds = socket.writeSucceeds :=
  rfl

@[simp]
theorem record_incoming (socket : Socket) (call : TransportCall) :
    (socket.record call).incoming = socket.incoming :=
  rfl

@[simp]
theorem record_calls (socket : Socket) (call : TransportCall) :
    (socket.record call).calls = socket.calls ++ [call] :=
  rfl

@[simp]
theorem connect_calls (socket : Socket) (host : String) (port : Int)
    (cancel : CancellationRequest) :
    (socket.connect host port cancel).2.calls = socket.calls ++ [.connect host port cancel] :=
  rfl

@[simp]
theorem writeBytes_calls (socket : Socket) (data : String) (cancel : CancellationRequest) :
    (socket.writeBytes data cancel).2.calls = socket.calls ++ [.writeBytes data cancel] :=
  rfl

@[simp]
theorem readLine_calls (socket : Socket) (cancel : CancellationRequest) :
    (socket.readLine cancel).2.calls = socket.calls ++ [.readLine cancel] := by
  unfold readLine
  split <;> rfl

@[simp]
theorem readBytes_calls (socket : Socket) (length : Nat) (cancel : CancellationRequest) :
    (socket.readBytes length cancel).2.calls = socket.calls ++ [.readBytes length cancel] := by
  unfold readBytes
  split <;> rfl

theorem readLine_of_split {socket : Socket} {line rest : List Char}
    (split : splitLine socket.incoming = some (line, rest)) (cancel : CancellationRequest) :
    socket.readLine cancel =
      (some line, { socket.record (.readLine cancel) with incoming := rest }) := by
  simp [readLine, split]

theorem readLine_of_incoming {socket : Socket} {line rest : List Char}
    (noCR : '\r' ∉ line) (incoming : socket.incoming = line ++ '\r' :: '\n' :: rest)
    (cancel : CancellationRequest) :
    socket.readLine cancel =
      (some line, { socket.record (.readLine cancel) with incoming := rest }) :=
  readLine_of_split (by rw [incoming]; exact splitLine_append_crlf noCR rest) cancel

theorem readLine_incoming_lt {socket next : Socket} {cancel : CancellationRequest}
    {line : List Char} (read : socket.readLine cancel = (some line, next)) :
    next.incoming.length < socket.incoming.length := by
  unfold readLine at read
  split at read
  · rename_i line' rest split
    obtain ⟨-, rfl⟩ := Prod.mk.inj read
    have := splitLine_length split
    simp only
    omega
  · simp at read

theorem readBytes_of_le {socket : Socket} {length : Nat}
    (enough : length ≤ socket.incoming.length) (cancel : CancellationRequest) :
    socket.readBytes length cancel =
      (some (socket.incoming.take length),
        { socket.record (.readBytes length cancel) with
          incoming := socket.incoming.drop length }) := by
  simp [readBytes, enough]

theorem readBytes_of_prefix {socket : Socket} {data rest : List Char}
    (incoming : socket.incoming = data ++ rest) (cancel : CancellationRequest) :
    socket.readBytes data.length cancel =
      (some data, { socket.record (.readBytes data.length cancel) with incoming := rest }) := by
  rw [readBytes_of_le (by simp [incoming])]
  simp [incoming]

theorem exists_readLine {socket : Socket} {line rest : List Char} (noCR : '\r' ∉ line)
    (incoming : socket.incoming = line ++ '\r' :: '\n' :: rest) (cancel : CancellationRequest) :
    ∃ next : Socket, next.incoming = rest ∧ socket.readLine cancel = (some line, next) :=
  ⟨_, rfl, readLine_of_incoming noCR incoming cancel⟩

theorem exists_readBytes {socket : Socket} {data rest : List Char}
    (incoming : socket.incoming = data ++ rest) (cancel : CancellationRequest) :
    ∃ next : Socket, next.incoming = rest ∧
      socket.readBytes data.length cancel = (some data, next) :=
  ⟨_, rfl, readBytes_of_prefix incoming cancel⟩

/-- A read of a line succeeds when a CR LF is still to come. -/
theorem readLine_of_crlf {socket : Socket} {line rest : List Char}
    (incoming : socket.incoming = line ++ '\r' :: '\n' :: rest) (cancel : CancellationRequest) :
    ∃ read next, socket.readLine cancel = (some read, next) := by
  obtain ⟨⟨read, after⟩, split⟩ := Option.isSome_iff_exists.mp
    (incoming ▸ splitLine_isSome_of_crlf line rest)
  exact ⟨read, _, readLine_of_split split cancel⟩

theorem readBytes_incoming_le (socket : Socket) (length : Nat) (cancel : CancellationRequest) :
    (socket.readBytes length cancel).2.incoming.length ≤ socket.incoming.length := by
  unfold readBytes
  split <;> simp

end Socket

/-- The pair a header line `Key: Value` denotes: the text before the first
`:`, and the text after it without leading blanks; `none` without a `:`. -/
def headerField (line : List Char) : Option (String × String) :=
  match line.span (fun c => c != ':') with
  | (key, _ :: value) => some (String.mk key, String.mk (value.dropWhile (fun c => c = ' ')))
  | (_, []) => none

/-- Add the field of one header line, if it has one, to the map. -/
def addHeaderLine (headers : WebSocketHttpHeaders) (line : List Char) : WebSocketHttpHeaders :=
  match headerField line with
  | some (key, value) => headers.insert key value
  | none => headers

/-- `parseHttpHeaders(socket, isCancellationRequested)`, continuing from the
headers read so far.  Modelled from the spec: it reads lines until an empty
one and accumulates `Key: Value` pairs, the last value of a key winning; a
failed line read fails the parse, with the headers collected up to there. -/
def parseHttpHeaders (cancel : CancellationRequest) (headers : WebSocketHttpHeaders)
    (socket : Socket) : Bool × WebSocketHttpHeaders × Socket :=
  match read : socket.readLine cancel with
  | (none, next) => (false, headers, next)
  | (some [], next) => (true, headers, next)
  | (some (c :: line), next) =>
      have := Socket.readLine_incoming_lt read
      parseHttpHeaders cancel (addHeaderLine headers (c :: line)) next
termination_by socket.incoming.length

theorem parseHttpHeaders_of_empty {cancel : CancellationRequest} {socket next : Socket}
    (headers : WebSocketHttpHeaders) (read : socket.readLine cancel = (some [], next)) :
    parseHttpHeaders cancel headers socket = (true, headers, next) := by
  rw [parseHttpHeaders]
  split <;> simp_all

theorem parseHttpHeaders_of_line {cancel : CancellationRequest} {socket next : Socket}
    {c : Char} {line : List Char} (headers : WebSocketHttpHeaders)
    (read : socket.readLine cancel = (some (c :: line), next)) :
    parseHttpHeaders cancel headers socket =
      parseHttpHeaders cancel (addHeaderLine headers (c :: line)) next := by
  rw [parseHttpHeaders]
  split <;> simp_all

theorem parseHttpHeaders_of_none {cancel : CancellationRequest} {socket next : Socket}
    (headers : WebSocketHttpHeaders) (read : socket.readLine cancel = (none, next)) :
    parseHttpHeaders cancel headers socket = (false, headers, next) := by
  rw [parseHttpHeaders]
  split <;> simp_all

/-- The wire form of one header field, `Key: Value`. -/
def fieldLine (field : String × String) : List Char :=
  field.1.data ++ ':' :: ' ' :: field.2.data

/-- A header block: every field's line with its terminator, then an empty line. -/
def headerBlock (fields : List (String × String)) : List Char :=
  fields.flatMap (fun field => fieldLine field ++ crlf) ++ crlf

/-- A field the header parser reads back as it was written: no `:` in the
key, no CR in the line, and no blank opening the value. -/
def FieldFramed (field : String × String) : Prop :=
  ':' ∉ field.1.data ∧ '\r' ∉ field.1.data ∧ '\r' ∉ field.2.data ∧
    field.2.data.head? ≠ some ' '

instance : DecidablePred FieldFramed :=
  fun _ => inferInstanceAs (Decidable (_ ∧ _ ∧ _ ∧ _))

theorem span_append_colon {key : List Char} (noColon : ':' ∉ key) (rest : List Char) :
    (key ++ ':' :: rest).span (fun c => c != ':') = (key, ':' :: rest) := by
  rw [List.span_eq_take_drop]
  induction key with
  | nil => simp
  | cons c key ih =>
      have other : c ≠ ':' := fun same => noColon (by simp [same])
      have tail := ih (fun mem => noColon (by simp [mem]))
      simp only [Prod.mk.injEq] at tail
      simp [other, tail]

theorem headerField_fieldLine {field : String × String} (framed : FieldFramed field) :
    headerField (fieldLine field) = some field := by
  obtain ⟨noColon, -, -, noBlank⟩ := framed
  have trimmed : field.2.data.dropWhile (fun c => c = ' ') = field.2.data := by
    cases value : field.2.data with
    | nil => rfl
    | cons c cs =>
        have : c ≠ ' ' := fun same => noBlank (by simp [value, same])
        simp [this]
  unfold headerField fieldLine
  rw [span_append_colon noColon]
  simp [trimmed]

theorem parseHttpHeaders_headerBlock (cancel : CancellationRequest)
    {fields : List (String × String)} (framed : ∀ field ∈ fields, FieldFramed field)
    (headers : WebSocketHttpHeaders) (socket : Socket) (rest : List Char)
    (incoming : socket.incoming = headerBlock fields ++ rest) :
    parseHttpHeaders cancel headers socket =
      (true, fields.foldl (fun map field => map.insert field.1 field.2) headers,
        { socket with
          incoming := rest
          calls := socket.calls ++ List.replicate (fields.length + 1) (.readLine cancel) }) := by
  induction fields generalizing headers socket with
  | nil =>
      have read : socket.readLine cancel =
          (some [],
            { socket with incoming := rest, calls := socket.calls ++ [.readLine cancel] }) := by
        rw [@Socket.readLine_of_split socket [] rest
          (by simp [incoming, headerBlock, splitLine]) cancel]
        rfl
      simp [parseHttpHeaders_of_empty headers read]
  | cons field fields ih =>
      obtain ⟨noColon, noCRKey, noCRValue, -⟩ := framed field (by simp)
      have noCR : '\r' ∉ fieldLine field := by simp [fieldLine, noCRKey, noCRValue]
      obtain ⟨c, line, cons⟩ := List.exists_cons_of_ne_nil
        (show fieldLine field ≠ [] by simp [fieldLine])
      have read : socket.readLine cancel =
          (some (c :: line), { socket with incoming := headerBlock fields ++ rest,
                                           calls := socket.calls ++ [.readLine cancel] }) := by
        have split :
            splitLine socket.incoming = some (fieldLine field, headerBlock fields ++ rest) := by
          rw [incoming]
          simpa [headerBlock] using splitLine_append_crlf noCR (headerBlock fields ++ rest)
        rw [Socket.readLine_of_split split, cons]
        rfl
      rw [parseHttpHeaders_of_line headers read, ← cons]
      simp only [addHeaderLine, headerField_fieldLine (framed field (by simp))]
      rw [ih (fun f mem => framed f (by simp [mem])) _ _ rfl]
      simp [List.replicate_succ]

end IxHttpClient
