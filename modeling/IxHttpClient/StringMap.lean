import Mathlib.Data.List.Nodup

/-!
# Ordered string maps

The header map `WebSocketHttpHeaders` and the parameter map `HttpParameters`
are declared outside the repository's sources.  Following the spec, both are
mappings from case-sensitive keys to values that keep their keys in insertion
order, where writing an existing key replaces its value in place.
`HttpClient` reads them with `find` and with `operator[]`; the latter inserts
a missing key with the empty value before returning it.
-/

namespace IxHttpClient

/-- An insertion-ordered map with case-sensitive string keys.  Modelled from
the spec: an ordered mapping string → string, insertion order preserved, keys
case-sensitive, last write wins on duplicate insertion. -/
structure StringMap where
  entries : List (String × String)
  keys_nodup : (entries.map Prod.fst).Nodup
deriving DecidableEq

/-- `WebSocketHttpHeaders`, the header map of requests and responses. -/
abbrev WebSocketHttpHeaders := StringMap

/-- `HttpParameters`, the parameter map of form-encoded bodies. -/
abbrev HttpParameters := StringMap

namespace StringMap

/-- The value stored under `key` in an association list. -/
def lookup (key : String) : List (String × String) → Option String
  | [] => none
  | (k, v) :: rest => if k = key then some v else lookup key rest

/-- Overwrite the value of `key` where it occurs, or append the new pair. -/
def upsert (key value : String) : List (String × String) → List (String × String)
  | [] => [(key, value)]
  | (k, v) :: rest =>
      if k = key then (key, value) :: rest else (k, v) :: upsert key value rest

theorem lookup_upsert_self (key value : String) (entries : List (String × String)) :
    lookup key (upsert key value entries) = some value := by
  induction entries with
  | nil => simp [upsert, lookup]
  | cons pair rest ih =>
      obtain ⟨k, v⟩ := pair
      by_cases same : k = key <;> simp [upsert, lookup, same, ih]

theorem lookup_upsert_of_ne {key key' : String} (value : String)
    (entries : List (String × String)) (other : key' ≠ key) :
    lookup key' (upsert key value entries) = lookup key' entries := by
  induction entries with
  | nil => simp [upsert, lookup, Ne.symm other]
  | cons pair rest ih =>
      obtain ⟨k, v⟩ := pair
      by_cases same : k = key
      · subst same
        simp [upsert, lookup, Ne.symm other]
      · simp [upsert, lookup, same, ih]

theorem lookup_eq_none_iff (key : String) (entries : List (String × String)) :
    lookup key entries = none ↔ key ∉ entries.map Prod.fst := by
  induction entries with
  | nil => simp [lookup]
  | cons pair rest ih =>
      obtain ⟨k, v⟩ := pair
      by_cases same : k = key
      · simp [lookup, same]
      · simp [lookup, same, ih, Ne.symm same]

theorem mem_of_lookup_eq_some {key value : String} {entries : List (String × String)}
    (found : lookup key entries = some value) : (key, value) ∈ entries := by
  induction entries with
  | nil => simp [lookup] at found
  | cons pair rest ih =>
      obtain ⟨k, v⟩ := pair
      by_cases same : k = key
      · simp only [lookup, same, if_true, Option.some.injEq] at found
        simp [same, found]
      · simp only [lookup, same, if_false] at found
        exact List.mem_cons_of_mem _ (ih found)

theorem upsert_of_not_mem {key : String} (value : String)
    {entries : List (String × String)} (absent : key ∉ entries.map Prod.fst) :
    upsert key value entries = entries ++ [(key, value)] := by
  induction entries with
  | nil => rfl
  | cons pair rest ih =>
      obtain ⟨k, v⟩ := pair
      have other : k ≠ key := fun same => absent (by simp [same])
      simp [upsert, other, ih (fun mem => absent (by simp [mem]))]

theorem upsert_keys_of_mem {key : String} (value : String)
    {entries : List (String × String)} (present : key ∈ entries.map Prod.fst) :
    (upsert key value entries).map Prod.fst = entries.map Prod.fst := by
  induction entries with
  | nil => simp at present
  | cons pair rest ih =>
      obtain ⟨k, v⟩ := pair
      by_cases same : k = key
      · simp [upsert, same]
      · have inRest : key ∈ rest.map Prod.fst := by simpa [Ne.symm same] using present
        simp [upsert, same, ih inRest]

theorem nodup_upsert_keys (key value : String) {entries : List (String × String)}
    (nodup : (entries.map Prod.fst).Nodup) :
    ((upsert key value entries).map Prod.fst).Nodup := by
  by_cases present : key ∈ entries.map Prod.fst
  · rwa [upsert_keys_of_mem value present]
  · rw [upsert_of_not_mem value present, List.map_append]
    exact nodup.append (List.nodup_singleton key) (by simpa using present)

/-- The map with no keys. -/
def empty : StringMap := ⟨[], List.nodup_nil⟩

/-- `map.find(key)`, as the value stored under `key`. -/
def find (map : StringMap) (key : String) : Option String :=
  lookup key map.entries

/-- `map[key] = value`. -/
def insert (map : StringMap) (key value : String) : StringMap :=
  ⟨upsert key value map.entries, nodup_upsert_keys key value map.keys_nodup⟩

/-- `map[key]` read as a value: the stored value, or the empty string after
`operator[]` has inserted `key` with it. -/
def index (map : StringMap) (key : String) : String × StringMap :=
  match map.find key with
  | some value => (value, map)
  | none => ("", map.insert key "")

/-- The map built by writing the pairs in order, the last value of a key winning. -/
def ofList (pairs : List (String × String)) : StringMap :=
  pairs.foldl (fun map pair => map.insert pair.1 pair.2) empty

@[simp]
theorem find_empty (key : String) : empty.find key = none :=
  rfl

@[simp]
theorem find_insert_self (map : StringMap) (key value : String) :
    (map.insert key value).find key = some value :=
  lookup_upsert_self key value map.entries

@[simp]
theorem find_insert_of_ne (map : StringMap) {key key' : String} (value : String)
    (other : key' ≠ key) : (map.insert key value).find key' = map.find key' :=
  lookup_upsert_of_ne value map.entries other

theorem mem_entries_of_find_eq_some {map : StringMap} {key value : String}
    (found : map.find key = some value) : (key, value) ∈ map.entries :=
  mem_of_lookup_eq_some found

/-- After `operator[]` the key is present, holding the value it returned. -/
@[simp]
theorem find_index_snd (map : StringMap) (key : String) :
    (map.index key).2.find key = some (map.index key).1 := by
  unfold index
  split <;> simp_all

theorem index_of_find_eq_some {map : StringMap} {key value : String}
    (present : map.find key = some value) : map.index key = (value, map) := by
  simp [index, present]

theorem index_of_find_eq_none {map : StringMap} {key : String}
    (absent : map.find key = none) : map.index key = ("", map.insert key "") := by
  simp [index, absent]

theorem find_foldl_insert_eq_none_iff (fields : List (String × String)) (map : StringMap)
    (key : String) :
    (fields.foldl (fun map field => map.insert field.1 field.2) map).find key = none ↔
      map.find key = none ∧ key ∉ fields.map Prod.fst := by
  induction fields generalizing map with
  | nil => simp
  | cons field fields ih =>
      rw [List.foldl_cons, ih]
      by_cases same : key = field.1
      · subst same
        simp
      · simp [find_insert_of_ne _ _ same, same]

theorem find_ofList_eq_none_iff (fields : List (String × String)) (key : String) :
    (ofList fields).find key = none ↔ key ∉ fields.map Prod.fst := by
  simp [ofList, find_foldl_insert_eq_none_iff]

theorem find_foldl_insert_of_not_mem {key : String} {fields : List (String × String)}
    (absent : key ∉ fields.map Prod.fst) (map : StringMap) :
    (fields.foldl (fun map field => map.insert field.1 field.2) map).find key = map.find key := by
  induction fields generalizing map with
  | nil => rfl
  | cons field fields ih =>
      have other : key ≠ field.1 := fun same => absent (by simp [same])
      rw [List.foldl_cons, ih (fun mem => absent (by simp [mem])), find_insert_of_ne _ _ other]

/-- A key holds the value written last for it. -/
theorem find_ofList_of_last {key value : String} (earlier later : List (String × String))
    (absent : key ∉ later.map Prod.fst) :
    (ofList (earlier ++ (key, value) :: later)).find key = some value := by
  rw [ofList, List.foldl_append, List.foldl_cons, find_foldl_insert_of_not_mem absent,
    find_insert_self]

end StringMap

end IxHttpClient
