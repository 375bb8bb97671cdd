/-!
# Insertion-ordered tables

A `Table` maps texts to values and remembers the order in which its keys first arrived. It is
the shape of a JSON object, of the fields of a log entry, of an environment and of the tool
registry's two indexes.

## Main definitions

* `Table.get?`: the value filed under a key.
* `Table.insert`: file a value; a key that is present keeps its place.
* `Table.merge`: insert every entry of a second table, in its order.
* `Table.erase`: drop a key.

## Main results

* `Table.get?_insert`: what a lookup finds after an insertion.
* `Table.keys_insert`: a new key goes to the end, a present one moves nothing.
* `Table.exists_get?_merge`, `Table.get?_merge_of_not_mem`, `Table.get?_merge`: what a lookup finds
  after a merge.
* `Table.get?_filter`: what a lookup finds once entries are dropped by their keys.
-/

namespace Calculator

/-- An association list from texts to values, in order of first insertion. -/
abbrev Table (α : Type) := List (String × α)

namespace Table

variable {α : Type}

/-- The value filed under `key`. -/
def get? (table : Table α) (key : String) : Option α :=
  match table with
  | [] => none
  | (k, v) :: rest => if k = key then some v else get? rest key

/-- The keys, in order of first insertion. -/
def keys (table : Table α) : List String := table.map (·.1)

/-- The values, in the order of their keys. -/
def values (table : Table α) : List α := table.map (·.2)

/-- Whether something is filed under `key`. -/
def contains (table : Table α) (key : String) : Bool := (table.get? key).isSome

/-- File `value` under `key`: in place when the key is present, at the end otherwise. -/
def insert (table : Table α) (key : String) (value : α) : Table α :=
  match table with
  | [] => [(key, value)]
  | (k, v) :: rest => if k = key then (key, value) :: rest else (k, v) :: insert rest key value

/-- Insert the entries of `other` one after the other. -/
def merge (table other : Table α) : Table α :=
  other.foldl (fun t entry => Table.insert t entry.1 entry.2) table

/-- Drop the entry filed under `key`. -/
def erase (table : Table α) (key : String) : Table α :=
  table.filter (fun entry => entry.1 ≠ key)

/-- A lookup after an insertion finds the new value under its key and the old ones elsewhere. -/
theorem get?_insert (table : Table α) (key key' : String) (value : α) :
    get? (insert table key value) key' = if key = key' then some value else get? table key' := by
  induction table with
  | nil => simp [insert, get?]
  | cons entry rest ih =>
    obtain ⟨k, v⟩ := entry
    by_cases hk : k = key
    · subst hk
      by_cases hk' : k = key' <;> simp [insert, get?, hk']
    · by_cases hk' : k = key'
      · subst hk'
        simp [insert, get?, hk, Ne.symm hk]
      · simp [insert, get?, hk, hk', ih]

/-- A new key goes to the end of the table; a present one moves nothing. -/
theorem keys_insert (table : Table α) (key : String) (value : α) :
    keys (insert table key value) =
      if key ∈ keys table then keys table else keys table ++ [key] := by
  induction table with
  | nil => simp [insert, keys]
  | cons entry rest ih =>
    obtain ⟨k, v⟩ := entry
    by_cases hk : k = key
    · subst hk
      simp [insert, keys]
    · simp only [keys] at ih
      by_cases hmem : key ∈ rest.map (·.1)
      · simp [insert, keys, hk, ih, hmem]
      · simp [insert, keys, hk, ih, hmem, Ne.symm hk]

/-- A key has an entry exactly when it is listed among the keys. -/
theorem get?_isSome_iff (table : Table α) (key : String) :
    (get? table key).isSome ↔ key ∈ keys table := by
  induction table with
  | nil => simp [get?, keys]
  | cons entry rest ih =>
    obtain ⟨k, v⟩ := entry
    simp only [keys] at ih
    by_cases hk : k = key
    · simp [get?, keys, hk]
    · simp [get?, keys, hk, ih, Ne.symm hk]

/-- A lookup finds nothing exactly under a key that is not listed. -/
theorem get?_eq_none_iff (table : Table α) (key : String) :
    get? table key = none ↔ key ∉ keys table := by
  rw [← get?_isSome_iff, Option.not_isSome_iff_eq_none]

/-- An entry that a lookup finds is in the table. -/
theorem mem_of_get? {table : Table α} {key : String} {value : α}
    (h : get? table key = some value) : (key, value) ∈ table := by
  induction table with
  | nil => simp [get?] at h
  | cons entry rest ih =>
    obtain ⟨k, v⟩ := entry
    by_cases hk : k = key
    · obtain rfl : v = value := by simpa [get?, hk] using h
      exact hk ▸ List.mem_cons_self
    · exact List.mem_cons_of_mem _ (ih (by simpa [get?, hk] using h))

/-- If no key occurs twice, a lookup finds every entry. -/
theorem get?_of_mem {table : Table α} {key : String} {value : α} (hkeys : (keys table).Nodup)
    (h : (key, value) ∈ table) : get? table key = some value := by
  induction table with
  | nil => simp at h
  | cons entry rest ih =>
    obtain ⟨k, v⟩ := entry
    obtain ⟨hfresh, hrest⟩ : k ∉ keys rest ∧ (keys rest).Nodup := by simpa [keys] using hkeys
    rcases List.mem_cons.mp h with heq | hmem
    · obtain ⟨rfl, rfl⟩ : key = k ∧ value = v := by simpa using heq
      simp [get?]
    · have hne : k ≠ key := by
        rintro rfl
        exact hfresh (List.mem_map.mpr ⟨_, hmem, rfl⟩)
      simpa [get?, hne] using ih hrest hmem

/-- If no key occurs twice, an entry parts the table, and its key is not behind it. -/
theorem exists_split {table : Table α} {key : String} {value : α} (hkeys : (keys table).Nodup)
    (h : (key, value) ∈ table) :
    ∃ before after, table = before ++ (key, value) :: after ∧ key ∉ keys after := by
  obtain ⟨before, after, rfl⟩ := List.append_of_mem h
  rw [keys, List.map_append, List.nodup_append] at hkeys
  exact ⟨before, after, rfl, (List.nodup_cons.mp hkeys.2.1).1⟩

/-- Insertions keep the keys apart. -/
theorem nodup_keys_insert {table : Table α} (h : (keys table).Nodup) (key : String) (value : α) :
    (keys (insert table key value)).Nodup := by
  rw [keys_insert]
  split
  · exact h
  · next hfresh =>
    refine List.nodup_append.mpr ⟨h, by simp, fun k hk k' hk' => ?_⟩
    obtain rfl : k' = key := by simpa using hk'
    exact fun heq => hfresh (heq ▸ hk)

/-- Merging keeps the keys apart. -/
theorem nodup_keys_merge {table : Table α} (h : (keys table).Nodup) (other : Table α) :
    (keys (merge table other)).Nodup := by
  induction other generalizing table with
  | nil => exact h
  | cons entry rest ih => exact ih (nodup_keys_insert h entry.1 entry.2)

/-- A lookup after a merge finds the old value under a key that was not merged. -/
theorem get?_merge_of_not_mem {other : Table α} {key : String} (h : key ∉ keys other)
    (table : Table α) : get? (merge table other) key = get? table key := by
  induction other generalizing table with
  | nil => rfl
  | cons entry rest ih =>
    obtain ⟨hne, hrest⟩ : key ≠ entry.1 ∧ key ∉ keys rest := by simpa [keys] using h
    have hmerge := ih hrest (insert table entry.1 entry.2)
    rw [get?_insert, if_neg hne.symm] at hmerge
    exact hmerge

/-- A lookup after a merge finds a merged value under a key that was merged. -/
theorem exists_get?_merge {other : Table α} {key : String} (h : key ∈ keys other)
    (table : Table α) :
    ∃ value, (key, value) ∈ other ∧ get? (merge table other) key = some value := by
  induction other generalizing table with
  | nil => simp [keys] at h
  | cons entry rest ih =>
    obtain ⟨k, v⟩ := entry
    -- the last of several values counts, so the rest decides first
    by_cases hrest : key ∈ keys rest
    · obtain ⟨value, hmem, hget⟩ := ih hrest (insert table k v)
      exact ⟨value, List.mem_cons_of_mem _ hmem, hget⟩
    · obtain rfl : key = k := (List.mem_cons.mp h).resolve_right hrest
      refine ⟨v, List.mem_cons_self, ?_⟩
      have hmerge := get?_merge_of_not_mem hrest (insert table key v)
      rw [get?_insert, if_pos rfl] at hmerge
      exact hmerge

/-- If no key is merged twice, a lookup after a merge finds the merged value first. -/
theorem get?_merge {other : Table α} (h : (keys other).Nodup) (table : Table α) (key : String) :
    get? (merge table other) key = (get? other key).or (get? table key) := by
  by_cases hkey : key ∈ keys other
  · obtain ⟨value, hmem, hget⟩ := exists_get?_merge hkey table
    rw [hget, get?_of_mem h hmem, Option.some_or]
  · rw [get?_merge_of_not_mem hkey, (get?_eq_none_iff other key).mpr hkey, Option.none_or]

/-- A lookup after a merge finds the last of the values that were merged under one key. -/
theorem get?_merge_of_last {other before after : Table α} {key : String} {value : α}
    (hother : other = before ++ (key, value) :: after) (hlast : key ∉ keys after)
    (table : Table α) : get? (merge table other) key = some value := by
  have hsplit : merge table other = merge (insert (merge table before) key value) after := by
    rw [hother, merge, List.foldl_append]
    rfl
  rw [hsplit, get?_merge_of_not_mem hlast, get?_insert, if_pos rfl]

/-- Dropping entries by their keys changes no lookup under a key that is kept. -/
theorem get?_filter (p : String → Bool) (table : Table α) (key : String) :
    get? (table.filter fun entry => p entry.1) key = if p key then get? table key else none := by
  induction table with
  | nil => simp [get?]
  | cons entry rest ih =>
    obtain ⟨k, v⟩ := entry
    by_cases hk : k = key
    · subst hk
      cases hp : p k <;> simp [hp, get?, ih]
    · cases hp : p k <;> simp [hp, get?, hk, ih]

end Table

end Calculator
