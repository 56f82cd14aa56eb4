import IxHttpClient.Engine

/-!
# The command-line client's line parsers

`ws_http_client` turns its `-H` and `-d` arguments into a header map and a
parameter map (lines 31-83 of `ws_http_client.cpp`).  Both parsers read the
argument line by line with `std::getline`, split each line at the last
separator `rfind` finds, and cut the key and the value out with `substr`.
They differ in two values only: `parseHeaders` splits at `:` and skips two
characters for the blank of `Key: value`, `parsePostParameters` splits at `=`
and skips one.  Skipping two runs past the end of a line whose last character
is `:`, where `substr` throws `std::out_of_range`; and splitting at the last
separator cuts a value that holds one.  Lines whose keys and values hold no
separator are read back as exactly the pairs they were written from.
-/

namespace IxHttpClient

/-- The lines `while (std::getline(tokenStream, token))` reads from the rest
of the stream, `current` holding the characters of the line begun: a line
ends at `\n`, which is consumed, or at the end of the stream, where it counts
only if it has a character. -/
def getlines (current : List Char) : List Char → List (List Char)
  | [] => if current = [] then [] else [current]
  | c :: rest => if c = '\n' then current :: getlines [] rest else getlines (current ++ [c]) rest

/-- `token.rfind(separator)`: the position of the last occurrence, with
`none` for `npos`. -/
def rfind (separator : Char) : List Char → Option Nat
  | [] => none
  | c :: rest =>
      match rfind separator rest with
      | some i => some (i + 1)
      | none => if c = separator then some 0 else none

/-- `std::out_of_range` as `substr` throws it, with the position and the
size its message reports. -/
structure OutOfRange where
  position : Nat
  size : Nat
deriving DecidableEq

/-- `token.substr(position, count)`, with `none` for the default count
`npos`: it throws when `position` is past the end. -/
def substr (token : List Char) (position : Nat) (count : Option Nat) :
    Except OutOfRange (List Char) :=
  if token.length < position then .error ⟨position, token.length⟩
  else
    match count with
    | some count => .ok ((token.drop position).take count)
    | none => .ok (token.drop position)

/-- One pass of the loop body the two parsers share: a line without
`separator` is skipped; the key is the text before its last `separator`, the
value the text from `skip` characters after it, and `map[key] = val`. -/
def addLine (separator : Char) (skip : Nat) (map : StringMap) (token : List Char) :
    Except OutOfRange StringMap :=
  match rfind separator token with
  | none => .ok map
  | some pos => do
      let key ← substr token 0 (some pos)
      let val ← substr token (pos + skip) none
      return map.insert ⟨key⟩ ⟨val⟩

/-- The `getline` loop the two parsers share, over the lines of `data`. -/
def parseLines (separator : Char) (skip : Nat) (data : String) : Except OutOfRange StringMap :=
  (getlines [] data.data).foldlM (addLine separator skip) StringMap.empty

/-- `ix::parseHeaders(data)` (lines 31-54): split at `:`, skip `": "`. -/
def parseHeaders (data : String) : Except OutOfRange WebSocketHttpHeaders :=
  parseLines ':' 2 data

/-- `ix::parsePostParameters(data)` (lines 60-83): split at `=`, skip `"="`. -/
def parsePostParameters (data : String) : Except OutOfRange HttpParameters :=
  parseLines '=' 1 data

/-- The request `ws_http_client_main` makes (lines 85-132): the parsed `-H`
lines as extra headers, then HEAD, GET, or POST of the parsed `-d` lines.
`createRequest()` leaves `url` and `verb` at defaults `request` never reads. -/
def wsHttpClientRequest (env : Environment) (url headersData data : String) (headersOnly : Bool)
    (connectTimeout transferTimeout : Int) (followRedirects : Bool) (maxRedirects : Int)
    (compress : Bool) : Except OutOfRange (Outcome × List TransportCall) := do
  let extraHeaders ← parseHeaders headersData
  let args : HttpRequestArgs := ⟨"", "", "", extraHeaders, connectTimeout, transferTimeout,
    followRedirects, maxRedirects, compress⟩
  let httpParameters ← parsePostParameters data
  if headersOnly then return HttpClient.head env url args
  else if data.isEmpty then return HttpClient.get env url args
  else return HttpClient.post env url httpParameters args

/-- Lines joined by `\n`, as a `-H` or `-d` argument of several lines holds them. -/
def joinLines (lines : List (List Char)) : String :=
  ⟨['\n'].intercalate lines⟩

section Lines

theorem getlines_append_newline {line : List Char} (noNewline : '\n' ∉ line)
    (current rest : List Char) :
    getlines current (line ++ '\n' :: rest) = (current ++ line) :: getlines [] rest := by
  induction line generalizing current with
  | nil => simp [getlines]
  | cons c line ih =>
      have other : c ≠ '\n' := fun same => noNewline (same ▸ List.mem_cons_self c line)
      rw [List.cons_append, getlines, if_neg other,
        ih (fun mem => noNewline (List.mem_cons_of_mem c mem))]
      simp

theorem getlines_of_no_newline {line : List Char} (noNewline : '\n' ∉ line)
    (current : List Char) (nonempty : current ++ line ≠ []) :
    getlines current line = [current ++ line] := by
  induction line generalizing current with
  | nil => simpa [getlines] using nonempty
  | cons c line ih =>
      have other : c ≠ '\n' := fun same => noNewline (same ▸ List.mem_cons_self c line)
      rw [getlines, if_neg other, ih (fun mem => noNewline (List.mem_cons_of_mem c mem))]
      · simp
      · simp

/-- `getline` gives back the lines that were joined, when none holds a `\n`
and none is empty. -/
theorem getlines_joinLines {lines : List (List Char)} (noNewline : ∀ line ∈ lines, '\n' ∉ line)
    (nonempty : ∀ line ∈ lines, line ≠ []) : getlines [] (joinLines lines).data = lines := by
  induction lines with
  | nil => rfl
  | cons line rest ih =>
      have lineNoNewline := noNewline line (List.mem_cons_self line rest)
      cases rest with
      | nil =>
          simpa [joinLines, List.intercalate] using
            getlines_of_no_newline lineNoNewline [] (by simpa using nonempty line (by simp))
      | cons next rest =>
          have joined : ['\n'].intercalate (line :: next :: rest) =
              line ++ '\n' :: ['\n'].intercalate (next :: rest) := by
            simp [List.intercalate, List.intersperse_cons_cons]
          rw [joinLines, joined, getlines_append_newline lineNoNewline, List.nil_append]
          exact congrArg (line :: ·) (ih (fun l mem => noNewline l (List.mem_cons_of_mem _ mem))
            (fun l mem => nonempty l (List.mem_cons_of_mem _ mem)))

end Lines

section Rfind

variable {separator : Char}

theorem rfind_append (front back : List Char) :
    rfind separator (front ++ back) =
      ((rfind separator back).map (front.length + ·)).or (rfind separator front) := by
  induction front with
  | nil => cases found : rfind separator back <;> simp [found, rfind]
  | cons c front ih =>
      rw [List.cons_append, rfind, ih]
      cases rfind separator back with
      | some j => simp; omega
      | none => simp [rfind]

theorem rfind_of_not_mem {token : List Char} (absent : separator ∉ token) :
    rfind separator token = none := by
  induction token with
  | nil => rfl
  | cons c token ih =>
      have other : c ≠ separator := fun same => absent (same ▸ List.mem_cons_self c token)
      simp [rfind, ih (fun mem => absent (List.mem_cons_of_mem c mem)), other]

theorem rfind_isSome_of_mem {token : List Char} (present : separator ∈ token) :
    (rfind separator token).isSome := by
  induction token with
  | nil => simp at present
  | cons c token ih =>
      unfold rfind
      split
      · rfl
      · rename_i absent
        rcases List.mem_cons.mp present with same | mem
        · simp [same]
        · simp [absent] at ih
          exact absurd (ih mem) id

theorem rfind_lt {token : List Char} {pos : Nat} (found : rfind separator token = some pos) :
    pos < token.length := by
  induction token generalizing pos with
  | nil => simp [rfind] at found
  | cons c token ih =>
      unfold rfind at found
      split at found
      · rename_i i later
        cases found
        simpa using ih later
      · split_ifs at found
        cases found
        simp

/-- The last separator is the last character exactly when it sits where
skipping two characters runs past the end. -/
theorem rfind_overruns_two_iff (token : List Char) :
    (∃ pos, rfind separator token = some pos ∧ token.length < pos + 2) ↔
      token.getLast? = some separator := by
  rcases List.eq_nil_or_concat token with rfl | ⟨front, last, rfl⟩
  · simp [rfind]
  · rw [List.concat_eq_append, rfind_append]
    by_cases same : last = separator
    · subst same
      simp [rfind]
    · have single : rfind separator [last] = none := by simp [rfind, same]
      simp only [single, Option.map_none', Option.none_or, List.getLast?_concat,
        Option.some.injEq, same, iff_false, not_exists, not_and]
      intro pos found
      have := rfind_lt found
      simp only [List.length_append, List.length_singleton]
      omega

end Rfind

section Loop

variable {separator : Char} {skip : Nat}

theorem addLine_of_none {map : StringMap} {token : List Char}
    (found : rfind separator token = none) : addLine separator skip map token = .ok map := by
  simp [addLine, found]

theorem addLine_of_fits {map : StringMap} {token : List Char} {pos : Nat}
    (found : rfind separator token = some pos) (fits : pos + skip ≤ token.length) :
    addLine separator skip map token =
      .ok (map.insert ⟨token.take pos⟩ ⟨token.drop (pos + skip)⟩) := by
  have inside : ¬ token.length < pos + skip := by omega
  simp [addLine, found, substr, inside]
  rfl

theorem addLine_of_overrun {map : StringMap} {token : List Char} {pos : Nat}
    (found : rfind separator token = some pos) (overrun : token.length < pos + skip) :
    addLine separator skip map token = .error ⟨pos + skip, token.length⟩ := by
  simp [addLine, found, substr, overrun]
  rfl

theorem foldlM_addLine_cons (map : StringMap) (token : List Char) (tokens : List (List Char)) :
    (token :: tokens).foldlM (addLine separator skip) map =
      (addLine separator skip map token).bind fun next =>
        tokens.foldlM (addLine separator skip) next :=
  rfl

/-- The loop runs to the end exactly when no line's value starts past its end. -/
theorem foldlM_addLine_isOk_iff (tokens : List (List Char)) (map : StringMap) :
    (∃ result, tokens.foldlM (addLine separator skip) map = .ok result) ↔
      ∀ token ∈ tokens, ∀ pos, rfind separator token = some pos → pos + skip ≤ token.length := by
  induction tokens generalizing map with
  | nil => exact ⟨fun _ _ mem => absurd mem (List.not_mem_nil _), fun _ => ⟨map, rfl⟩⟩
  | cons token tokens ih =>
      rw [foldlM_addLine_cons]
      cases found : rfind separator token with
      | none => simp [addLine_of_none found, Except.bind, ih, found]
      | some pos =>
          by_cases fits : pos + skip ≤ token.length
          · simp [addLine_of_fits found fits, Except.bind, ih, found, fits]
          · simp [addLine_of_overrun found (not_le.mp fits), Except.bind, found, fits]

theorem find_of_foldlM_addLine {tokens : List (List Char)} {map result : StringMap}
    (ran : tokens.foldlM (addLine separator skip) map = .ok result) {key : String}
    (present : map.find key ≠ none) : result.find key ≠ none := by
  induction tokens generalizing map with
  | nil => cases ran; exact present
  | cons token tokens ih =>
      rw [foldlM_addLine_cons] at ran
      cases found : rfind separator token with
      | none => exact ih (by simpa [addLine_of_none found, Except.bind] using ran) present
      | some pos =>
          by_cases fits : pos + skip ≤ token.length
          · refine ih (by simpa [addLine_of_fits found fits, Except.bind] using ran) ?_
            by_cases same : key = ⟨token.take pos⟩
            · simp [same]
            · simpa [StringMap.find_insert_of_ne _ _ same] using present
          · simp [addLine_of_overrun found (not_le.mp fits), Except.bind] at ran

/-- A loop that runs to the end has recorded, for every line with a
separator, the text before the last one as a key. -/
theorem find_take_of_foldlM_addLine {tokens : List (List Char)} {map result : StringMap}
    (ran : tokens.foldlM (addLine separator skip) map = .ok result) {token : List Char}
    (mem : token ∈ tokens) {pos : Nat} (found : rfind separator token = some pos) :
    result.find ⟨token.take pos⟩ ≠ none := by
  have fits := (foldlM_addLine_isOk_iff tokens map).mp ⟨result, ran⟩ token mem pos found
  induction tokens generalizing map with
  | nil => simp at mem
  | cons first tokens ih =>
      rw [foldlM_addLine_cons] at ran
      rcases List.mem_cons.mp mem with rfl | later
      · rw [addLine_of_fits found fits] at ran
        exact find_of_foldlM_addLine ran (by simp)
      · cases firstFound : rfind separator first with
        | none => exact ih (by simpa [addLine_of_none firstFound, Except.bind] using ran) later
        | some firstPos =>
            by_cases firstFits : firstPos + skip ≤ first.length
            · exact ih (by simpa [addLine_of_fits firstFound firstFits, Except.bind] using ran)
                later
            · simp [addLine_of_overrun firstFound (not_le.mp firstFits), Except.bind] at ran

end Loop

section Parsers

theorem parsePostParameters_isOk (data : String) :
    ∃ httpParameters, parsePostParameters data = .ok httpParameters :=
  (foldlM_addLine_isOk_iff (getlines [] data.data) StringMap.empty).mpr
    fun _ _ _ found => rfind_lt found

theorem parseHeaders_isOk_iff (data : String) :
    (∃ headers, parseHeaders data = .ok headers) ↔
      ∀ token ∈ getlines [] data.data, token.getLast? ≠ some ':' := by
  refine (foldlM_addLine_isOk_iff (getlines [] data.data) StringMap.empty).trans
    (forall₂_congr fun token _ => ?_)
  rw [ne_eq, ← rfind_overruns_two_iff]
  simp only [not_exists, not_and, not_lt]

/-- `parsePostParameters` always returns; `parseHeaders` throws
`std::out_of_range` exactly when a line of its argument ends with `:`, where
`substr(pos + 2)` starts one past the end. -/
theorem cli_parsers_total_unless_trailing_colon (data : String) :
    (∃ httpParameters, parsePostParameters data = .ok httpParameters) ∧
      ((∃ headers, parseHeaders data = .ok headers) ↔
        ∀ token ∈ getlines [] data.data, token.getLast? ≠ some ':') :=
  ⟨parsePostParameters_isOk data, parseHeaders_isOk_iff data⟩

/-- `ws_http_client -H "a:"`: the line's last `:` is its last character, so
`substr(3)` on the two-character line throws, and the client ends with the
exception before any request is made. -/
theorem colon_ended_header_throws :
    parseHeaders "a:" = .error ⟨3, 2⟩ ∧
      (¬ ∀ token ∈ getlines [] "a:".data, token.getLast? ≠ some ':') ∧
      ∀ (env : Environment) (url : String),
        wsHttpClientRequest env url "a:" "" false 60 1800 false 5 false = .error ⟨3, 2⟩ := by
  have thrown : parseHeaders "a:" = .error ⟨3, 2⟩ := rfl
  refine ⟨thrown, fun fits => ?_, fun env url => by simp only [wsHttpClientRequest, thrown]; rfl⟩
  obtain ⟨headers, parsed⟩ := (cli_parsers_total_unless_trailing_colon "a:").2.mpr fits
  cases thrown.symm.trans parsed

/-- The line `key`, `gap`, `value`. -/
def pairLine (gap : List Char) (pair : String × String) : List Char :=
  pair.1.data ++ gap ++ pair.2.data

theorem pairLine_data (gap : String) :
    (fun pair : String × String => (pair.1 ++ gap ++ pair.2).data) = pairLine gap.data := by
  funext pair
  simp [pairLine, String.data_append]

/-- When a value holds the separator, the loop cuts its line at the
separator inside the value: the key it records runs into the value and holds
the separator of `gap`. -/
theorem parseLines_binds_cut_key {separator : Char} {gap : List Char} {skip : Nat}
    (opens : separator ∈ gap) {pairs : List (String × String)}
    (noNewline : ∀ pair ∈ pairs, '\n' ∉ pairLine gap pair) {pair : String × String}
    (mem : pair ∈ pairs) (inValue : separator ∈ pair.2.data) {result : StringMap}
    (parsed : parseLines separator skip (joinLines (pairs.map (pairLine gap))) = .ok result) :
    ∃ key value, result.find key = some value ∧ separator ∈ key.data := by
  have lines : getlines [] (joinLines (pairs.map (pairLine gap))).data = pairs.map (pairLine gap) :=
    getlines_joinLines
      (fun line member => by
        obtain ⟨other, otherMem, rfl⟩ := List.mem_map.mp member
        exact noNewline other otherMem)
      (fun line member => by
        obtain ⟨other, _, rfl⟩ := List.mem_map.mp member
        simp [pairLine, List.ne_nil_of_mem opens])
  obtain ⟨j, inside⟩ := Option.isSome_iff_exists.mp (rfind_isSome_of_mem inValue)
  have found : rfind separator (pairLine gap pair) = some ((pair.1.data ++ gap).length + j) := by
    rw [pairLine, rfind_append, inside]
    rfl
  rw [parseLines, lines] at parsed
  have recorded := find_take_of_foldlM_addLine parsed (List.mem_map_of_mem _ mem) found
  obtain ⟨value, bound⟩ := Option.ne_none_iff_exists'.mp recorded
  refine ⟨_, value, bound, ?_⟩
  show separator ∈ List.take _ (pairLine gap pair)
  rw [pairLine, List.take_append]
  simp [opens]

/-- So when no key holds the separator and some value does, the loop binds a
key that is none of the keys given. -/
theorem parseLines_binds_foreign_key {separator : Char} {gap : List Char} {skip : Nat}
    (opens : separator ∈ gap) {pairs : List (String × String)}
    (noNewline : ∀ pair ∈ pairs, '\n' ∉ pairLine gap pair)
    (keys : ∀ pair ∈ pairs, separator ∉ pair.1.data)
    (inValue : ∃ pair ∈ pairs, separator ∈ pair.2.data) {result : StringMap}
    (parsed : parseLines separator skip (joinLines (pairs.map (pairLine gap))) = .ok result) :
    ∃ key value, result.find key = some value ∧ key ∉ pairs.map Prod.fst := by
  obtain ⟨pair, mem, inside⟩ := inValue
  obtain ⟨key, value, bound, cut⟩ :=
    parseLines_binds_cut_key opens noNewline mem inside parsed
  refine ⟨key, value, bound, fun given => ?_⟩
  obtain ⟨other, otherMem, rfl⟩ := List.mem_map.mp given
  exact keys other otherMem cut

/-- A value that holds the separator is cut at it: whenever the parsers
return, they bind a key that is none of the keys given. -/
theorem cli_parsers_cut_values_at_separator (pairs : List (String × String))
    (noNewline : ∀ pair ∈ pairs, '\n' ∉ pair.1.data ∧ '\n' ∉ pair.2.data) :
    ((∀ pair ∈ pairs, ':' ∉ pair.1.data) → (∃ pair ∈ pairs, ':' ∈ pair.2.data) →
      ∀ headers, parseHeaders (joinLines (pairs.map fun pair => (pair.1 ++ ": " ++ pair.2).data)) =
        .ok headers → ∃ key value, headers.find key = some value ∧ key ∉ pairs.map Prod.fst) ∧
    ((∀ pair ∈ pairs, '=' ∉ pair.1.data) → (∃ pair ∈ pairs, '=' ∈ pair.2.data) →
      ∀ httpParameters, parsePostParameters
        (joinLines (pairs.map fun pair => (pair.1 ++ "=" ++ pair.2).data)) = .ok httpParameters →
        ∃ key value, httpParameters.find key = some value ∧ key ∉ pairs.map Prod.fst) := by
  have lineFree : ∀ gap : List Char, '\n' ∉ gap → ∀ pair ∈ pairs, '\n' ∉ pairLine gap pair :=
    fun gap free pair mem => by simp [pairLine, free, noNewline pair mem]
  refine ⟨fun keys inValue headers parsed => ?_, fun keys inValue httpParameters parsed => ?_⟩
  · rw [pairLine_data] at parsed
    exact parseLines_binds_foreign_key (by simp) (lineFree _ (by decide)) keys inValue parsed
  · rw [pairLine_data] at parsed
    exact parseLines_binds_foreign_key (by simp) (lineFree _ (by decide)) keys inValue parsed

/-- A `Referer` that holds a URL, and a signature with base64 padding. -/
def refererAndSignature : List (String × String) :=
  [("Referer", "http://x"), ("sig", "YQ==")]

theorem referer_and_signature_cut :
    (∃ key value, (StringMap.ofList [("Referer: http", "/x"), ("sig", "YQ==")]).find key =
      some value ∧ key ∉ refererAndSignature.map Prod.fst) ∧
    (∃ key value, (StringMap.ofList [("Referer", "http://x"), ("sig=YQ=", "")]).find key =
      some value ∧ key ∉ refererAndSignature.map Prod.fst) :=
  ⟨(cli_parsers_cut_values_at_separator refererAndSignature (by decide)).1 (by decide)
      (by decide) _ rfl,
    (cli_parsers_cut_values_at_separator refererAndSignature (by decide)).2 (by decide)
      (by decide) _ rfl⟩

end Parsers

section RoundTrip

variable {separator : Char} {gap : List Char}

/-- The last separator of `key`, `gap`, `value` is the one opening `gap` when
the key, the rest of the gap and the value hold none. -/
theorem rfind_pairLine {rest : List Char} (opens : gap = separator :: rest)
    (gapFree : separator ∉ rest) {pair : String × String} (keyFree : separator ∉ pair.1.data)
    (valueFree : separator ∉ pair.2.data) :
    rfind separator (pairLine gap pair) = some pair.1.data.length := by
  subst opens
  rw [pairLine, rfind_append, rfind_of_not_mem valueFree, rfind_append, rfind,
    rfind_of_not_mem gapFree, rfind_of_not_mem keyFree]
  simp

/-- One pass of the loop over such a line binds the key to the value. -/
theorem addLine_pairLine {rest : List Char} (opens : gap = separator :: rest)
    (gapFree : separator ∉ rest) {pair : String × String} (keyFree : separator ∉ pair.1.data)
    (valueFree : separator ∉ pair.2.data) (map : StringMap) :
    addLine separator gap.length map (pairLine gap pair) = .ok (map.insert pair.1 pair.2) := by
  rw [addLine_of_fits (rfind_pairLine opens gapFree keyFree valueFree) (by simp [pairLine]),
    pairLine, List.append_assoc, List.take_left, List.drop_append, List.drop_left]

theorem foldlM_addLine_pairLine {rest : List Char} (opens : gap = separator :: rest)
    (gapFree : separator ∉ rest) {pairs : List (String × String)}
    (free : ∀ pair ∈ pairs, separator ∉ pair.1.data ∧ separator ∉ pair.2.data) (map : StringMap) :
    (pairs.map (pairLine gap)).foldlM (addLine separator gap.length) map =
      .ok (pairs.foldl (fun map pair => map.insert pair.1 pair.2) map) := by
  induction pairs generalizing map with
  | nil => rfl
  | cons pair pairs ih =>
      have pairFree := free pair (List.mem_cons_self _ _)
      rw [List.map_cons, foldlM_addLine_cons,
        addLine_pairLine opens gapFree pairFree.1 pairFree.2 map]
      exact ih (fun other mem => free other (List.mem_cons_of_mem _ mem)) _

/-- Lines joined from pairs whose keys and values hold neither the separator
nor a newline are read back as the map of the pairs. -/
theorem parseLines_joinLines {rest : List Char} (opens : gap = separator :: rest)
    (gapFree : separator ∉ rest) (newlineFree : '\n' ∉ gap) {pairs : List (String × String)}
    (free : ∀ pair ∈ pairs, separator ∉ pair.1.data ∧ separator ∉ pair.2.data)
    (noNewline : ∀ pair ∈ pairs, '\n' ∉ pair.1.data ∧ '\n' ∉ pair.2.data) :
    parseLines separator gap.length (joinLines (pairs.map (pairLine gap))) =
      .ok (StringMap.ofList pairs) := by
  have lines : getlines [] (joinLines (pairs.map (pairLine gap))).data =
      pairs.map (pairLine gap) :=
    getlines_joinLines
      (fun line member => by
        obtain ⟨pair, mem, rfl⟩ := List.mem_map.mp member
        simp [pairLine, newlineFree, noNewline pair mem])
      (fun line member => by
        obtain ⟨pair, _, rfl⟩ := List.mem_map.mp member
        simp [pairLine, opens])
  rw [parseLines, lines, foldlM_addLine_pairLine opens gapFree free]
  rfl

/-- The positive side of the parsers: `-H` lines `key: value` and `-d` lines
`key=value` whose keys and values hold no separator and no newline are read
back as exactly the map of the pairs, the last value of a repeated key
winning. -/
theorem cli_parsers_read_back_pairs (pairs : List (String × String))
    (noNewline : ∀ pair ∈ pairs, '\n' ∉ pair.1.data ∧ '\n' ∉ pair.2.data) :
    ((∀ pair ∈ pairs, ':' ∉ pair.1.data ∧ ':' ∉ pair.2.data) →
      parseHeaders (joinLines (pairs.map fun pair => (pair.1 ++ ": " ++ pair.2).data)) =
        .ok (StringMap.ofList pairs)) ∧
    ((∀ pair ∈ pairs, '=' ∉ pair.1.data ∧ '=' ∉ pair.2.data) →
      parsePostParameters (joinLines (pairs.map fun pair => (pair.1 ++ "=" ++ pair.2).data)) =
        .ok (StringMap.ofList pairs)) := by
  refine ⟨fun free => ?_, fun free => ?_⟩
  · rw [pairLine_data]
    exact @parseLines_joinLines ':' ": ".data [' '] rfl (by decide) (by decide) pairs free
      noNewline
  · rw [pairLine_data]
    exact @parseLines_joinLines '=' "=".data [] rfl (by decide) (by decide) pairs free noNewline

/-- An `Accept` header and an identifier. -/
def acceptAndId : List (String × String) :=
  [("Accept", "text/html"), ("X-Id", "7")]

theorem accept_and_id_read_back :
    parseHeaders (joinLines (acceptAndId.map fun pair => (pair.1 ++ ": " ++ pair.2).data)) =
        .ok (StringMap.ofList acceptAndId) ∧
      parsePostParameters (joinLines (acceptAndId.map fun pair => (pair.1 ++ "=" ++ pair.2).data)) =
        .ok (StringMap.ofList acceptAndId) :=
  ⟨(cli_parsers_read_back_pairs acceptAndId (by decide)).1 (by decide),
    (cli_parsers_read_back_pairs acceptAndId (by decide)).2 (by decide)⟩

end RoundTrip

end IxHttpClient
