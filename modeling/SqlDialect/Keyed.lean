import SqlDialect.Text.Basic

/-!
# Values under text keys

A finite map from texts to values, kept as a list of pairs in the order of the keys: the order of
code points, character by character. There is one entry for a key, and storing a value under a key
that is present replaces the value. So two maps with the same entries are the same list.

## Main definitions

* `Keyed.insert`, `Keyed.ofList` — storing one pair, and a list of pairs from first to last
* `Keyed.get?` — looking a key up
* `Keyed.keys` — the keys in order
* `Keyed.last?` — the last of a list of pairs with a key

## Main results

* `Keyed.get?_insert_self`, `Keyed.get?_insert_of_ne` — looking up after storing
* `Keyed.get?_ofList` — looking up after storing a list of pairs
-/

namespace SqlDialect

/-- Pairs of a key and a value, in the order of the keys. -/
abbrev Keyed (α : Type _) := List (Text × α)

namespace Keyed

variable {α : Type _}

/-- `entries` with `value` under `key`. -/
def insert (key : Text) (value : α) : Keyed α → Keyed α
  | [] => [(key, value)]
  | (k, v) :: rest =>
    if key = k then (key, value) :: rest
    else if key < k then (key, value) :: (k, v) :: rest
    else (k, v) :: insert key value rest

/-- The value under `key`. -/
def get? (entries : Keyed α) (key : Text) : Option α :=
  match entries with
  | [] => none
  | (k, v) :: rest => if key = k then some v else get? rest key

/-- Pairs stored one after the other: of two with one key the last stays. -/
def ofList (pairs : List (Text × α)) : Keyed α :=
  pairs.foldl (fun entries (key, value) => insert key value entries) []

/-- The keys in order. -/
def keys (entries : Keyed α) : List Text := entries.map Prod.fst

@[simp] theorem get?_nil (key : Text) : get? ([] : Keyed α) key = none := rfl

/-! ### Looking up after storing -/

@[simp] theorem get?_insert_self (entries : Keyed α) (key : Text) (value : α) :
    get? (insert key value entries) key = some value := by
  induction entries with
  | nil => simp [insert, get?]
  | cons entry rest ih =>
    obtain ⟨k, v⟩ := entry
    by_cases same : key = k
    · simp [insert, get?, same]
    · by_cases before : key < k
      · simp [insert, get?, same, before]
      · simp [insert, get?, same, before, ih]

theorem get?_insert_of_ne (entries : Keyed α) {key other : Text} (value : α) (h : other ≠ key) :
    get? (insert key value entries) other = get? entries other := by
  induction entries with
  | nil => simp [insert, get?, h]
  | cons entry rest ih =>
    obtain ⟨k, v⟩ := entry
    by_cases same : key = k
    · subst same
      simp [insert, get?, h]
    · by_cases before : key < k
      · simp [insert, get?, same, before, h]
      · simp only [insert, if_neg same, if_neg before, get?, ih]

theorem mem_keys_of_get? {entries : Keyed α} {key : Text} {value : α}
    (h : get? entries key = some value) : key ∈ keys entries := by
  induction entries with
  | nil => simp at h
  | cons entry rest ih =>
    obtain ⟨k, v⟩ := entry
    by_cases same : key = k
    · simp [keys, same]
    · rw [get?, if_neg same] at h
      exact List.mem_cons_of_mem k (ih h)

/-! ### Pairs as they are listed -/

/-- The value of the last of the pairs with the key. -/
def last? (pairs : List (Text × α)) (key : Text) : Option α :=
  (pairs.reverse.find? fun pair => pair.1 == key).map Prod.snd

theorem last?_append (pairs others : List (Text × α)) (key : Text) :
    last? (pairs ++ others) key = (last? others key).or (last? pairs key) := by
  simp only [last?, List.reverse_append, List.find?_append, Option.map_or]

theorem last?_singleton (pair : Text × α) (key : Text) :
    last? [pair] key = if pair.1 = key then some pair.2 else none := by
  by_cases h : pair.1 = key <;> simp [last?, h]

theorem last?_isSome_iff {pairs : List (Text × α)} {key : Text} :
    (last? pairs key).isSome ↔ key ∈ pairs.map Prod.fst := by
  simp [last?]

/-- Of pairs that are stored one after the other the last with the key counts, and without one what
was there before. -/
theorem get?_foldl_insert (pairs : List (Text × α)) (start : Keyed α) (key : Text) :
    get? (pairs.foldl (fun entries (key, value) => insert key value entries) start) key
      = (last? pairs key).or (get? start key) := by
  induction pairs generalizing start with
  | nil => rfl
  | cons pair pairs ih =>
    rw [List.foldl_cons, ih, ← List.singleton_append, last?_append, last?_singleton,
      Option.or_assoc]
    by_cases same : pair.1 = key
    · rw [if_pos same, Option.some_or, ← same, get?_insert_self]
    · rw [if_neg same, Option.none_or, get?_insert_of_ne _ _ (Ne.symm same)]

/-- **What is stored under a key is the last of the pairs with it.** -/
theorem get?_ofList (pairs : List (Text × α)) (key : Text) :
    get? (ofList pairs) key = last? pairs key := by
  rw [ofList, get?_foldl_insert, get?_nil, Option.or_none]

end Keyed

end SqlDialect
