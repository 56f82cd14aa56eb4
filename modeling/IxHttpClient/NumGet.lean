import Mathlib.Algebra.Group.Int
import Mathlib.Data.List.Basic

/-!
# Integer extraction from text

`request` reads three integers out of text: the status code with
`sscanf(line, "HTTP/1.1 %d", &code)`, the `Content-Length` value with
`ss >> contentLength` on a decimal `std::stringstream`, and every chunk size
with `ss >> chunkSize` on a stream switched to `std::hex`.  This file models
the library routines behind them in the "C" locale: the `istream` sentry,
libstdc++'s `num_get` integer stage with its failure and overflow values, the
`iostate` bits a stream carries from one extraction to the next, and glibc's
`%d` conversion.  Characters stand for the bytes of a `std::string`.  The
last section reads back the numerals a server writes: a `Content-Length`
value as `toString` prints it, and a chunk size followed by a chunk
extension, which leaves the stream good.
-/

namespace IxHttpClient

/-- `isspace` in the "C" locale. -/
def isSpace (c : Char) : Bool :=
  c = ' ' || c = '\t' || c = '\n' || c = '\x0B' || c = '\x0C' || c = '\r'

/-- The value of `c` as a digit of `base` (10, or 16 in either case). -/
def digitValue (base : Nat) (c : Char) : Option Nat :=
  if '0' ≤ c ∧ c ≤ '9' then some (c.toNat - '0'.toNat)
  else if base = 16 ∧ 'a' ≤ c ∧ c ≤ 'f' then some (c.toNat - 'a'.toNat + 10)
  else if base = 16 ∧ 'A' ≤ c ∧ c ≤ 'F' then some (c.toNat - 'A'.toNat + 10)
  else none

/-- The longest prefix of `base` digits, as digit values, and what follows it. -/
def spanDigits (base : Nat) : List Char → List Nat × List Char
  | [] => ([], [])
  | c :: rest =>
      match digitValue base c with
      | some d => ((d :: (spanDigits base rest).1), (spanDigits base rest).2)
      | none => ([], c :: rest)

/-- The number denoted by digit values, most significant first. -/
def digitsValue (base : Nat) (digits : List Nat) : Nat :=
  digits.foldl (fun acc d => acc * base + d) 0

/-- An optional leading `-` or `+`: whether it was `-`, and the rest. -/
def takeSign : List Char → Bool × List Char
  | '-' :: rest => (true, rest)
  | '+' :: rest => (false, rest)
  | cs => (false, cs)

/-- The `0x` or `0X` prefix `num_get` skips in base 16. -/
def dropHexPrefix : List Char → List Char
  | '0' :: 'x' :: rest => rest
  | '0' :: 'X' :: rest => rest
  | cs => cs

/-- A value as the 64-bit `size_t` or `uint64_t` holds it: reduced modulo `2^64`. -/
def wrap64 (value : Int) : Nat :=
  (value % 2 ^ 64).toNat

theorem wrap64_of_lt {value : Nat} (small : value < 2 ^ 64) : wrap64 value = value := by
  unfold wrap64
  omega

/-- The `iostate` bits of a string stream that `request` can set. -/
structure IoState where
  eof : Bool
  fail : Bool
deriving DecidableEq, Repr

namespace IoState

/-- `goodbit`: a freshly constructed stream. -/
def goodbit : IoState := ⟨false, false⟩

/-- `stream.good()`. -/
def good (state : IoState) : Bool := !state.eof && !state.fail

@[simp]
theorem good_goodbit : goodbit.good = true :=
  rfl

end IoState

/-- libstdc++'s `num_get::_M_extract_int` for a 64-bit integer in the "C"
locale, on characters the sentry has already stripped of leading white
space: the value stored, and the error bits raised.  No digit stores 0 with
`failbit`; a value out of range stores the nearest bound with `failbit`; an
unsigned target negates modulo `2^64`; reaching the end raises `eofbit`. -/
def numGet (base : Nat) (signed : Bool) (cs : List Char) : Int × IoState :=
  let (negative, afterSign) := takeSign cs
  let (digits, rest) :=
    spanDigits base (if base = 16 then dropHexPrefix afterSign else afterSign)
  let magnitude := digitsValue base digits
  let bound : Nat :=
    if signed then (if negative then 2 ^ 63 else 2 ^ 63 - 1) else 2 ^ 64 - 1
  if digits = [] then (0, ⟨rest.isEmpty, true⟩)
  else if bound < magnitude then
    (if signed ∧ negative then -2 ^ 63 else bound, ⟨rest.isEmpty, true⟩)
  else if negative then
    (if signed then -magnitude else ((2 ^ 64 - magnitude) % 2 ^ 64 : Nat),
      ⟨rest.isEmpty, false⟩)
  else (magnitude, ⟨rest.isEmpty, false⟩)

/-- `stream >> value` into a 64-bit integer, for a stream in `state` whose
unread characters are `buffer`: the new state, and the value stored, or
`none` when the sentry fails and the variable keeps what it held. -/
def extractInteger (base : Nat) (signed : Bool) (state : IoState)
    (buffer : List Char) : IoState × Option Int :=
  if state.good then
    match buffer.dropWhile isSpace with
    | [] => (⟨true, true⟩, none)
    | c :: cs => ((numGet base signed (c :: cs)).2, some (numGet base signed (c :: cs)).1)
  else (⟨state.eof, true⟩, none)

/-- Lines 347-349 of `request`, `ss.str(""); ss << std::hex << line;
ss >> chunkSize;`, on the chunk loop's stream: `str("")` empties the buffer
but keeps the state, and `<< line` writes nothing unless the stream is good. -/
def parseChunkSize (state : IoState) (line : List Char) : IoState × Option Nat :=
  let (state', value) := extractInteger 16 false state (if state.good then line else [])
  (state', value.map Int.toNat)

/-- Lines 310-313 of `request`, `ssize_t contentLength = -1; ss.str("");
ss << headers["Content-Length"]; ss >> contentLength;`, on the stream that
built the request, which is good and decimal there. -/
def parseContentLength (value : String) : Int :=
  ((extractInteger 10 true IoState.goodbit value.toList).2).getD (-1)

/-- What glibc's `%d` stores into an `int`: `strtol` clamps to `long`, and the
store keeps the low 32 bits. -/
def storeInt (value : Int) : Int :=
  (max (-2 ^ 63) (min value (2 ^ 63 - 1)) + 2 ^ 31) % 2 ^ 32 - 2 ^ 31

/-- `sscanf(line, "HTTP/1.1 %d", &code)`: the literal `HTTP/1.1`, then white
space (the format's blank and `%d`'s own skipping), then an optionally signed
run of decimal digits; `some code` exactly when the call returns 1. -/
def scanStatusCode (line : List Char) : Option Int :=
  match line.dropPrefix? "HTTP/1.1".toList with
  | none => none
  | some rest =>
      let (negative, afterSign) := takeSign (rest.dropWhile isSpace)
      let digits := (spanDigits 10 afterSign).1
      if digits = [] then none
      else some (storeInt (if negative then -(digitsValue 10 digits : Int)
        else digitsValue 10 digits))

/-- A signed extraction never goes below `LLONG_MIN`, where it clamps. -/
theorem numGet_signed_ge (base : Nat) (cs : List Char) : -2 ^ 63 ≤ (numGet base true cs).1 := by
  unfold numGet
  split
  split
  simp only [if_true, true_and]
  split_ifs <;> omega

theorem parseContentLength_ge (value : String) : -2 ^ 63 ≤ parseContentLength value := by
  unfold parseContentLength extractInteger
  simp only [IoState.good, IoState.goodbit, Bool.not_false, Bool.and_self, if_true]
  split
  · simp
  · exact numGet_signed_ge 10 _

/-- A negative `ssize_t` converted to `size_t` is at least `2^63`. -/
theorem wrap64_of_neg {value : Int} (low : -2 ^ 63 ≤ value) (negative : value < 0) :
    2 ^ 63 ≤ wrap64 value := by
  unfold wrap64
  omega

theorem extractInteger_of_not_good {state : IoState} (notGood : state.good = false)
    (base : Nat) (signed : Bool) (buffer : List Char) :
    extractInteger base signed state buffer = (⟨state.eof, true⟩, none) := by
  simp [extractInteger, notGood]

theorem parseChunkSize_of_not_good {state : IoState} (notGood : state.good = false)
    (line : List Char) : parseChunkSize state line = (⟨state.eof, true⟩, none) := by
  simp [parseChunkSize, extractInteger_of_not_good notGood]

/-- `line` is a hexadecimal numeral for `n`: hex digits only, in either case. -/
def HexNumeral (line : List Char) (n : Nat) : Prop :=
  line ≠ [] ∧ (∀ c ∈ line, (digitValue 16 c).isSome) ∧
    digitsValue 16 (line.map fun c => (digitValue 16 c).getD 0) = n

theorem spanDigits_of_no_digit {base : Nat} {cs : List Char}
    (noDigit : ∀ c rest, cs = c :: rest → digitValue base c = none) :
    spanDigits base cs = ([], cs) := by
  cases cs with
  | nil => rfl
  | cons c rest => simp [spanDigits, noDigit c rest rfl]

/-- The digits at the front of `digits ++ rest`, when `rest` starts with no
digit. -/
theorem spanDigits_append {base : Nat} {digits rest : List Char}
    (allDigits : ∀ c ∈ digits, (digitValue base c).isSome)
    (stop : ∀ c r, rest = c :: r → digitValue base c = none) :
    spanDigits base (digits ++ rest) = (digits.map fun c => (digitValue base c).getD 0, rest) := by
  induction digits with
  | nil => exact spanDigits_of_no_digit stop
  | cons c digits ih =>
      obtain ⟨d, hd⟩ := Option.isSome_iff_exists.mp (allDigits c (by simp))
      simp [spanDigits, hd, ih (fun x mem => allDigits x (by simp [mem]))]

theorem spanDigits_of_all_digits {base : Nat} {cs : List Char}
    (digits : ∀ c ∈ cs, (digitValue base c).isSome) :
    spanDigits base cs = (cs.map fun c => (digitValue base c).getD 0, []) := by
  simpa using @spanDigits_append base cs [] digits nofun

theorem takeSign_of_digit {base : Nat} {c : Char} (cs : List Char)
    (digit : (digitValue base c).isSome) : takeSign (c :: cs) = (false, c :: cs) := by
  unfold takeSign
  split
  next _ _ sign => cases sign; simp [digitValue] at digit
  next _ _ sign => cases sign; simp [digitValue] at digit
  next => rfl

theorem dropHexPrefix_of_digits {cs : List Char}
    (digits : ∀ c ∈ cs, (digitValue 16 c).isSome) : dropHexPrefix cs = cs := by
  unfold dropHexPrefix
  split
  · exact absurd (digits 'x' (by simp)) (by decide)
  · exact absurd (digits 'X' (by simp)) (by decide)
  · rfl

theorem isSpace_of_digit {base : Nat} {c : Char} (digit : (digitValue base c).isSome) :
    isSpace c = false := by
  have low : '0' ≤ c ∨ 'a' ≤ c ∨ 'A' ≤ c := by
    unfold digitValue at digit
    split_ifs at digit with decimal lower upper
    · exact .inl decimal.1
    · exact .inr (.inl lower.2.1)
    · exact .inr (.inr upper.2.1)
    · simp at digit
  unfold isSpace
  simp only [Bool.or_eq_false_iff, decide_eq_false_iff_not]
  refine ⟨⟨⟨⟨⟨?_, ?_⟩, ?_⟩, ?_⟩, ?_⟩, ?_⟩ <;>
    rintro rfl <;> revert low <;> decide

theorem dropWhile_isSpace_of_digit {base : Nat} {c : Char} (cs : List Char)
    (digit : (digitValue base c).isSome) : (c :: cs).dropWhile isSpace = c :: cs := by
  simp [List.dropWhile, isSpace_of_digit digit]

theorem numGet_hexNumeral {line : List Char} {n : Nat} (numeral : HexNumeral line n)
    (small : n < 2 ^ 64) : numGet 16 false line = ((n : Int), ⟨true, false⟩) := by
  obtain ⟨nonempty, digits, value⟩ := numeral
  have noSign : takeSign line = (false, line) := by
    obtain ⟨c, cs, rfl⟩ := List.exists_cons_of_ne_nil nonempty
    exact takeSign_of_digit cs (digits c (by simp))
  have inRange : ¬ 2 ^ 64 - 1 < n := by omega
  simp only [numGet, noSign, dropHexPrefix_of_digits digits, spanDigits_of_all_digits digits, value,
    if_true, Bool.false_eq_true, if_false, inRange, List.map_eq_nil_iff, nonempty, List.isEmpty_nil]

/-- A size line that is a numeral is read to its end, so the stream is left
at end of file: `eofbit` is set, and `ss.str("")` will not clear it. -/
theorem parseChunkSize_of_hexNumeral {state : IoState} (good : state.good = true)
    {line : List Char} {n : Nat} (numeral : HexNumeral line n) (small : n < 2 ^ 64) :
    parseChunkSize state line = (⟨true, false⟩, some n) := by
  obtain ⟨c, cs, rfl⟩ := List.exists_cons_of_ne_nil numeral.1
  have noSpace := dropWhile_isSpace_of_digit cs (numeral.2.1 c (by simp))
  simp [parseChunkSize, extractInteger, good, noSpace, numGet_hexNumeral numeral small]

example : parseChunkSize IoState.goodbit "1F".data = (⟨true, false⟩, some 31) := by decide

theorem HexNumeral.cr_not_mem {line : List Char} {n : Nat} (numeral : HexNumeral line n) :
    '\r' ∉ line :=
  fun mem => by simpa [digitValue] using numeral.2.1 '\r' mem

theorem dropHexPrefix_of_no_digit {base : Nat} {cs : List Char}
    (noDigit : ∀ c rest, cs = c :: rest → digitValue base c = none) :
    dropHexPrefix cs = cs := by
  unfold dropHexPrefix
  split
  · exact absurd (noDigit _ _ rfl) (by simp [digitValue])
  · exact absurd (noDigit _ _ rfl) (by simp [digitValue])
  · rfl

theorem numGet_of_no_digit {base : Nat} (signed : Bool) {cs : List Char}
    (noDigit : ∀ c rest, (takeSign cs).2 = c :: rest → digitValue base c = none) :
    (numGet base signed cs).1 = 0 ∧ (numGet base signed cs).2.fail = true := by
  rcases sign : takeSign cs with ⟨negative, afterSign⟩
  rw [sign] at noDigit
  simp [numGet, sign, dropHexPrefix_of_no_digit noDigit, spanDigits_of_no_digit noDigit]

/-- Text from which `>>` extracts no digit of `base`: something follows the
leading white space, but no digit follows the optional sign. -/
def NoLeadingDigit (base : Nat) (text : List Char) : Prop :=
  text.dropWhile isSpace ≠ [] ∧
    ((takeSign (text.dropWhile isSpace)).2.head?.bind (digitValue base)) = none

instance (base : Nat) (text : List Char) : Decidable (NoLeadingDigit base text) :=
  inferInstanceAs (Decidable (_ ∧ _))

theorem NoLeadingDigit.no_digit {base : Nat} {text : List Char}
    (malformed : NoLeadingDigit base text) (c : Char) (rest : List Char)
    (after : (takeSign (text.dropWhile isSpace)).2 = c :: rest) :
    digitValue base c = none := by
  simpa [after] using malformed.2

theorem parseContentLength_of_noLeadingDigit {value : String}
    (malformed : NoLeadingDigit 10 value.data) : parseContentLength value = 0 := by
  have noDigit := malformed.no_digit
  obtain ⟨c, cs, text⟩ := List.exists_cons_of_ne_nil malformed.1
  rw [text] at noDigit
  simp [parseContentLength, extractInteger, IoState.goodbit, IoState.good, text,
    (numGet_of_no_digit true noDigit).1]

example : parseContentLength "abc" = 0 := by decide

theorem parseChunkSize_of_noLeadingDigit {state : IoState} (good : state.good = true)
    {line : List Char} (malformed : NoLeadingDigit 16 line) :
    (parseChunkSize state line).2 = some 0 ∧ (parseChunkSize state line).1.fail = true := by
  have noDigit := malformed.no_digit
  obtain ⟨c, cs, text⟩ := List.exists_cons_of_ne_nil malformed.1
  rw [text] at noDigit
  simp [parseChunkSize, extractInteger, good, text, numGet_of_no_digit false noDigit]

section Numerals

/-! A numeral followed by text that stops it.  `Nat.repr`, which writes a
`Content-Length` value, gives a decimal numeral; a chunk-size line with a
chunk extension is a hexadecimal numeral, `;` and the extension. -/

/-- A numeral below `2^63` followed by text that starts with no digit is read
in full, and the stream is at its end exactly when nothing follows. -/
theorem numGet_of_numeral {base : Nat} (signed : Bool) {digits rest : List Char} {n : Nat}
    (nonempty : digits ≠ []) (allDigits : ∀ c ∈ digits, (digitValue base c).isSome)
    (value : digitsValue base (digits.map fun c => (digitValue base c).getD 0) = n)
    (stop : ∀ c r, rest = c :: r → digitValue base c = none)
    (unprefixed : base = 16 → dropHexPrefix (digits ++ rest) = digits ++ rest)
    (small : n < 2 ^ 63) :
    numGet base signed (digits ++ rest) = ((n : Int), ⟨rest.isEmpty, false⟩) := by
  have noSign : takeSign (digits ++ rest) = (false, digits ++ rest) := by
    obtain ⟨c, cs, rfl⟩ := List.exists_cons_of_ne_nil nonempty
    exact takeSign_of_digit (cs ++ rest) (allDigits c (by simp))
  have unchanged : (if base = 16 then dropHexPrefix (digits ++ rest) else digits ++ rest) =
      digits ++ rest := by
    split
    · exact unprefixed ‹_›
    · rfl
  have inRange : ¬ (if signed then 2 ^ 63 - 1 else 2 ^ 64 - 1) < n := by
    split <;> omega
  simp only [numGet, noSign, unchanged, spanDigits_append allDigits stop, value,
    List.map_eq_nil_iff, nonempty, Bool.false_eq_true, if_false, inRange]

theorem digitValue_digitChar : ∀ d < 10, digitValue 10 (Nat.digitChar d) = some d := by
  decide

theorem digitsValue_append_singleton (base : Nat) (digits : List Nat) (d : Nat) :
    digitsValue base (digits ++ [d]) = digitsValue base digits * base + d := by
  simp [digitsValue, List.foldl_append]

theorem toDigitsCore_succ (fuel n : Nat) (ds : List Char) :
    Nat.toDigitsCore 10 (fuel + 1) n ds =
      if n / 10 = 0 then Nat.digitChar (n % 10) :: ds
      else Nat.toDigitsCore 10 fuel (n / 10) (Nat.digitChar (n % 10) :: ds) :=
  rfl

/-- With fuel above `n`, `toDigitsCore` writes the decimal digits of `n` in
front of the characters it is handed. -/
theorem toDigitsCore_decimal {fuel n : Nat} (enough : n < fuel) (ds : List Char) :
    ∃ digits, Nat.toDigitsCore 10 fuel n ds = digits ++ ds ∧ digits ≠ [] ∧
      (∀ c ∈ digits, (digitValue 10 c).isSome) ∧
      digitsValue 10 (digits.map fun c => (digitValue 10 c).getD 0) = n := by
  induction fuel generalizing n ds with
  | zero => omega
  | succ fuel ih =>
      have last := digitValue_digitChar (n % 10) (Nat.mod_lt n (by decide))
      by_cases small : n / 10 = 0
      · refine ⟨[Nat.digitChar (n % 10)], by rw [toDigitsCore_succ, if_pos small]; rfl, by simp,
          by simp [last], ?_⟩
        simp [last, digitsValue]
        omega
      · obtain ⟨digits, core, nonempty, allDigits, value⟩ :=
          @ih (n / 10) (by omega) (Nat.digitChar (n % 10) :: ds)
        refine ⟨digits ++ [Nat.digitChar (n % 10)], by simp [toDigitsCore_succ, small, core],
          by simp, ?_, ?_⟩
        · simp only [List.mem_append, List.mem_singleton]
          rintro c (mem | rfl)
          exacts [allDigits c mem, by simp [last]]
        · rw [List.map_append, List.map_singleton, digitsValue_append_singleton, value, last]
          simp only [Option.getD_some]
          omega

/-- `toString` writes decimal digits only. -/
theorem toString_digits (n : Nat) : ∀ c ∈ (toString n).data, (digitValue 10 c).isSome := by
  obtain ⟨digits, core, -, allDigits, -⟩ := toDigitsCore_decimal (Nat.lt_succ_self n) []
  rw [show (toString n).data = digits from core.trans (List.append_nil digits)]
  exact allDigits

/-- A `Content-Length` value written by `toString` is read back. -/
theorem parseContentLength_toString {n : Nat} (small : n < 2 ^ 63) :
    parseContentLength (toString n) = n := by
  obtain ⟨digits, core, nonempty, allDigits, value⟩ := toDigitsCore_decimal (Nat.lt_succ_self n) []
  have read := @numGet_of_numeral 10 true digits [] n nonempty allDigits value nofun
    (fun sixteen => absurd sixteen (by decide)) small
  have text : (toString n).data = digits := core.trans (List.append_nil digits)
  obtain ⟨c, cs, rfl⟩ := List.exists_cons_of_ne_nil nonempty
  rw [List.append_nil] at read
  simp [parseContentLength, extractInteger, text,
    dropWhile_isSpace_of_digit cs (allDigits c (by simp)), read]

example : parseContentLength "12" = 12 := by decide

example : parseChunkSize IoState.goodbit "1F;x".data = (IoState.goodbit, some 31) := by decide

end Numerals

end IxHttpClient
