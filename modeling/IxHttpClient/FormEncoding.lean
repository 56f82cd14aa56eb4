import IxHttpClient.Request
import IxHttpClient.NumGet
import Mathlib.Data.String.Basic

/-!
# Form encoding

`post` and `put` with a parameter map send the body `serializeHttpParameters`
builds (lines 493-511): each key and value through `urlEncode` (lines
466-491), `=` between them and `&` between pairs.  `urlEncode` writes only
unreserved characters and `%` with two uppercase hex digits, and
percent-decoding undoes it.  Read back the way the spec reads a form body, by
splitting at `&` and at the first `=` and decoding both sides, the body gives
back the map's entries in order, whatever bytes its keys and values hold.  A
byte string is a string with one character per byte.
-/

namespace IxHttpClient

/-- A byte string: every character is a byte, below 256. -/
def IsByteString (s : String) : Prop :=
  ∀ c ∈ s.data, c.toNat < 256

instance : DecidablePred IsByteString :=
  fun s => inferInstanceAs (Decidable (∀ c ∈ s.data, c.toNat < 256))

/-- A map whose keys and values are byte strings. -/
def StringMap.IsBytes (map : StringMap) : Prop :=
  ∀ pair ∈ map.entries, IsByteString pair.1 ∧ IsByteString pair.2

instance : DecidablePred StringMap.IsBytes :=
  fun map => inferInstanceAs (Decidable (∀ pair ∈ map.entries, _ ∧ _))

namespace HttpClient

/-- The characters `urlEncode` passes through. -/
def isUnreserved (c : Char) : Bool :=
  isAlnum c || c = '-' || c = '_' || c = '.' || c = '~'

/-- An uppercase hexadecimal digit. -/
def isHexUpper (c : Char) : Bool :=
  ('0' ≤ c && c ≤ '9') || ('A' ≤ c && c ≤ 'F')

/-- What `urlEncode` writes for one character. -/
def urlEncodeChar (c : Char) : List Char :=
  if isUnreserved c then [c]
  else ['%', hexDigitUpper (c.toNat % 256 / 16), hexDigitUpper (c.toNat % 256 % 16)]

/-- The shape the spec gives `urlEncode`'s output: unreserved characters, and
`%` followed by two uppercase hexadecimal digits. -/
def isPercentEncoded : List Char → Bool
  | [] => true
  | c :: rest =>
      if c = '%' then
        match rest with
        | high :: low :: rest => isHexUpper high && isHexUpper low && isPercentEncoded rest
        | _ => false
      else isUnreserved c && isPercentEncoded rest

/-- Percent-decoding: `%` and two hexadecimal digits of either case stand for
the byte they spell, every other character for itself. -/
def percentDecode : List Char → List Char
  | '%' :: tail@(high :: low :: rest) =>
      match digitValue 16 high, digitValue 16 low with
      | some h, some l => Char.ofNat (16 * h + l) :: percentDecode rest
      | _, _ => '%' :: percentDecode tail
  | c :: rest => c :: percentDecode rest
  | [] => []

/-- One piece of a form body split at its first `=`, both sides
percent-decoded. -/
def decodePair (piece : List Char) : String × String :=
  (⟨percentDecode (piece.takeWhile (· != '='))⟩,
    ⟨percentDecode ((piece.dropWhile (· != '=')).drop 1)⟩)

/-- The reading of a form body the spec gives: no pairs for the empty body,
otherwise the pieces between `&`, each read by `decodePair`. -/
def decodeForm (body : List Char) : List (String × String) :=
  if body = [] then [] else (body.splitOn '&').map decodePair

section Characters

theorem urlEncode_data (value : String) :
    (urlEncode value).data = value.data.flatMap urlEncodeChar := by
  simp only [urlEncode, String.data_join, List.map_map, List.flatMap]
  congr 1
  refine List.map_congr_left fun c _ => ?_
  simp only [Function.comp_apply, urlEncodeChar, isUnreserved]
  split <;> rfl

theorem hexDigitUpper_digitValue : ∀ d, d < 16 → digitValue 16 (hexDigitUpper d) = some d := by
  decide

theorem isHexUpper_hexDigitUpper : ∀ d, d < 16 → isHexUpper (hexDigitUpper d) = true := by
  decide

theorem hexDigitUpper_ne_separator :
    ∀ d, d < 16 → hexDigitUpper d ≠ '&' ∧ hexDigitUpper d ≠ '=' := by
  decide

theorem ne_percent_of_isUnreserved {c : Char} (kept : isUnreserved c = true) : c ≠ '%' := by
  rintro rfl
  exact absurd kept (by decide)

theorem ne_separator_of_isUnreserved {c : Char} (kept : isUnreserved c = true) :
    c ≠ '&' ∧ c ≠ '=' := by
  constructor <;> rintro rfl <;> exact absurd kept (by decide)

theorem percentDecode_cons_of_ne {c : Char} (other : c ≠ '%') (rest : List Char) :
    percentDecode (c :: rest) = c :: percentDecode rest :=
  percentDecode.eq_2 c rest fun _ _ _ percent _ => other percent

theorem isPercentEncoded_cons_of_ne {c : Char} (other : c ≠ '%') (rest : List Char) :
    isPercentEncoded (c :: rest) = (isUnreserved c && isPercentEncoded rest) := by
  rw [isPercentEncoded.eq_def]
  exact if_neg other

/-- Decoding what `urlEncode` writes for a byte gives the byte back. -/
theorem percentDecode_urlEncodeChar {c : Char} (byte : c.toNat < 256) (rest : List Char) :
    percentDecode (urlEncodeChar c ++ rest) = c :: percentDecode rest := by
  unfold urlEncodeChar
  split
  · exact percentDecode_cons_of_ne (ne_percent_of_isUnreserved ‹_›) rest
  · have high : c.toNat % 256 / 16 < 16 := by omega
    have low : c.toNat % 256 % 16 < 16 := by omega
    have spelled : 16 * (c.toNat % 256 / 16) + c.toNat % 256 % 16 = c.toNat := by omega
    simp only [List.cons_append, List.nil_append, percentDecode,
      hexDigitUpper_digitValue _ high, hexDigitUpper_digitValue _ low, spelled, Char.ofNat_toNat]

theorem isPercentEncoded_urlEncodeChar (c : Char) (rest : List Char) :
    isPercentEncoded (urlEncodeChar c ++ rest) = isPercentEncoded rest := by
  unfold urlEncodeChar
  split
  · simp [isPercentEncoded_cons_of_ne (ne_percent_of_isUnreserved ‹_›), *]
  · have high : c.toNat % 256 / 16 < 16 := by omega
    have low : c.toNat % 256 % 16 < 16 := by omega
    simp [isPercentEncoded, isHexUpper_hexDigitUpper _ high, isHexUpper_hexDigitUpper _ low]

theorem urlEncodeChar_ne_separator {c c' : Char} (mem : c' ∈ urlEncodeChar c) :
    c' ≠ '&' ∧ c' ≠ '=' := by
  unfold urlEncodeChar at mem
  split at mem
  · rw [List.mem_singleton.mp mem]
    exact ne_separator_of_isUnreserved ‹_›
  · simp only [List.mem_cons, List.not_mem_nil, or_false] at mem
    rcases mem with rfl | rfl | rfl
    · decide
    · exact hexDigitUpper_ne_separator _ (by omega)
    · exact hexDigitUpper_ne_separator _ (by omega)

end Characters

theorem percentDecode_flatMap_urlEncodeChar {cs : List Char} (bytes : ∀ c ∈ cs, c.toNat < 256)
    (rest : List Char) :
    percentDecode (cs.flatMap urlEncodeChar ++ rest) = cs ++ percentDecode rest := by
  induction cs with
  | nil => rfl
  | cons c cs ih =>
      rw [List.flatMap_cons, List.append_assoc,
        percentDecode_urlEncodeChar (bytes c (List.mem_cons_self c cs)),
        ih fun c' mem => bytes c' (List.mem_cons_of_mem c mem), List.cons_append]

theorem isPercentEncoded_flatMap_urlEncodeChar (cs rest : List Char) :
    isPercentEncoded (cs.flatMap urlEncodeChar ++ rest) = isPercentEncoded rest := by
  induction cs with
  | nil => rfl
  | cons c cs ih => rw [List.flatMap_cons, List.append_assoc, isPercentEncoded_urlEncodeChar, ih]

theorem isPercentEncoded_urlEncode (value : String) :
    isPercentEncoded (urlEncode value).data = true := by
  simpa [urlEncode_data] using isPercentEncoded_flatMap_urlEncodeChar value.data []

theorem percentDecode_urlEncode {value : String} (bytes : IsByteString value) :
    percentDecode (urlEncode value).data = value.data := by
  simpa [urlEncode_data, percentDecode.eq_3] using percentDecode_flatMap_urlEncodeChar bytes []

/-- `urlEncode` is a percent-encoding with an exact inverse on byte strings. -/
theorem urlEncode_decodes (value : String) (bytes : IsByteString value) :
    isPercentEncoded (urlEncode value).data = true ∧
      percentDecode (urlEncode value).data = value.data :=
  ⟨isPercentEncoded_urlEncode value, percentDecode_urlEncode bytes⟩

theorem urlEncode_space_and_high_byte :
    urlEncode "a b~\xff" = "a%20b~%FF" ∧ isPercentEncoded (urlEncode "a b~\xff").data = true ∧
      percentDecode (urlEncode "a b~\xff").data = "a b~\xff".data :=
  ⟨by decide, urlEncode_decodes _ (by decide)⟩

theorem urlEncode_ne_separator {value : String} {c : Char} (mem : c ∈ (urlEncode value).data) :
    c ≠ '&' ∧ c ≠ '=' := by
  rw [urlEncode_data] at mem
  obtain ⟨c', _, encoded⟩ := List.mem_flatMap.mp mem
  exact urlEncodeChar_ne_separator encoded

section Form

/-- The text of one pair in the body: the encoded key, `=`, the encoded value. -/
def pairText (pair : String × String) : List Char :=
  (urlEncode pair.1).data ++ '=' :: (urlEncode pair.2).data

private theorem intercalate_cons_of_ne_nil {α : Type} (separator first : List α)
    {rest : List (List α)} (nonempty : rest ≠ []) :
    separator.intercalate (first :: rest) = first ++ separator ++ separator.intercalate rest := by
  obtain ⟨next, rest, rfl⟩ := List.exists_cons_of_ne_nil nonempty
  simp [List.intercalate, List.intersperse_cons_cons]

/-- The loop of `serializeHttpParameters` writes the pairs' texts with `&`
between them: the test `i++ < count - 1` fails exactly at the last pair. -/
theorem serializeFrom_data (count : Nat) (pairs : List (String × String)) (i : Nat)
    (counted : i + pairs.length = count) :
    (serializeFrom count i pairs).data = ['&'].intercalate (pairs.map pairText) := by
  induction pairs generalizing i with
  | nil => rfl
  | cons pair rest ih =>
      cases rest with
      | nil =>
          have last : ¬ i < count - 1 := by simp at counted; omega
          simp [serializeFrom, last, pairText, List.intercalate]
      | cons next rest =>
          have more : i < count - 1 := by simp at counted; omega
          rw [serializeFrom, List.map_cons, intercalate_cons_of_ne_nil _ _ (by simp),
            ← ih (i + 1) (by simp at counted ⊢; omega)]
          simp [more, pairText]

theorem decodePair_pairText {pair : String × String}
    (bytes : IsByteString pair.1 ∧ IsByteString pair.2) : decodePair (pairText pair) = pair := by
  have keyKept : ∀ c ∈ (urlEncode pair.1).data, (c != '=') = true := fun c mem => by
    simpa using (urlEncode_ne_separator mem).2
  have key := percentDecode_urlEncode bytes.1
  have value := percentDecode_urlEncode bytes.2
  simp only [decodePair, pairText, List.takeWhile_append_of_pos keyKept, List.dropWhile_append,
    List.dropWhile_eq_nil_iff.mpr keyKept, List.isEmpty_nil, if_true]
  simp [key, value]

theorem decodeForm_serializeHttpParameters {httpParameters : HttpParameters}
    (bytes : httpParameters.IsBytes) :
    decodeForm (serializeHttpParameters httpParameters).data = httpParameters.entries := by
  rw [serializeHttpParameters, serializeFrom_data _ _ 0 (by simp)]
  cases entries : httpParameters.entries with
  | nil => rfl
  | cons pair rest =>
      have noAmp : ∀ text ∈ (pair :: rest).map pairText, '&' ∉ text := by
        simp only [List.mem_map]
        rintro _ ⟨other, _, rfl⟩ mem
        simp only [pairText, List.mem_append, List.mem_cons] at mem
        rcases mem with mem | same | mem
        · exact (urlEncode_ne_separator mem).1 rfl
        · exact absurd same (by decide)
        · exact (urlEncode_ne_separator mem).1 rfl
      have nonempty : ['&'].intercalate ((pair :: rest).map pairText) ≠ [] := by
        cases rest <;> simp [pairText, List.intercalate, intercalate_cons_of_ne_nil]
      rw [decodeForm, if_neg nonempty, List.splitOn_intercalate _ _ noAmp (by simp),
        List.map_map]
      conv => rhs; rw [← List.map_id (pair :: rest)]
      refine List.map_congr_left fun other mem => decodePair_pairText (bytes other ?_)
      rwa [entries]

/-- The body `post` and `put` send for a parameter map reads back as the map's
entries, in order; so the body determines the map. -/
theorem serializeHttpParameters_decodes (httpParameters : HttpParameters)
    (bytes : httpParameters.IsBytes) :
    decodeForm (serializeHttpParameters httpParameters).data = httpParameters.entries ∧
      ∀ other : HttpParameters, other.IsBytes →
        serializeHttpParameters other = serializeHttpParameters httpParameters →
          other = httpParameters := by
  refine ⟨decodeForm_serializeHttpParameters bytes, fun other otherBytes same => ?_⟩
  have entries := decodeForm_serializeHttpParameters otherBytes
  rw [same, decodeForm_serializeHttpParameters bytes] at entries
  cases other
  cases httpParameters
  simp_all

/-- Parameters holding the separators and `%`, inserted in the key order a
`std::map` iterates in. -/
def searchParameters : HttpParameters :=
  StringMap.ofList [("", "100%"), ("q", "a&b=c")]

theorem search_parameters_decode :
    serializeHttpParameters searchParameters = "=100%25&q=a%26b%3Dc" ∧
      decodeForm (serializeHttpParameters searchParameters).data = searchParameters.entries :=
  ⟨by decide, (serializeHttpParameters_decodes searchParameters (by decide)).1⟩

end Form

end HttpClient

end IxHttpClient
