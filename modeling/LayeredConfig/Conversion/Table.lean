/-
**Finite tables whose values depend on their keys.**

* `Table.get?`: the value of a key;
* `Table.set` and `Table.erase`: the two ways to change a table;
* `get?_set_self`, `get?_set_of_ne`, `get?_erase_self`, `get?_erase_of_ne`: what a change does to
  the values.
-/

namespace LayeredConfig.Conversion

/-- A value for each of finitely many keys, in the order in which the keys were first set. -/
structure Table (Key : Type) (Value : Key → Type) where
  entries : List (Σ key : Key, Value key)

namespace Table

variable {Key : Type} [DecidableEq Key] {Value : Key → Type}

/-! ## Part 1 — operations -/

/-- The table without keys. -/
def empty : Table Key Value := ⟨[]⟩

/-- The keys of a table. -/
def keys (table : Table Key Value) : List Key :=
  table.entries.map fun entry => entry.1

/-- The number of keys. -/
def size (table : Table Key Value) : Nat := table.entries.length

/-- The value of a key among entries. -/
def find (key : Key) : List (Σ key : Key, Value key) → Option (Value key)
  | [] => none
  | entry :: rest => if same : entry.1 = key then some (same ▸ entry.2) else find key rest

/-- The value of a key. -/
def get? (table : Table Key Value) (key : Key) : Option (Value key) :=
  find key table.entries

/-- Entries with a value replaced, or added at the end. -/
def replace (key : Key) (value : Value key) :
    List (Σ key : Key, Value key) → List (Σ key : Key, Value key)
  | [] => [⟨key, value⟩]
  | entry :: rest => if entry.1 = key then ⟨key, value⟩ :: rest else entry :: replace key value rest

/-- The table with a value set. -/
def set (table : Table Key Value) (key : Key) (value : Value key) : Table Key Value :=
  ⟨replace key value table.entries⟩

/-- Entries without those of a key. -/
def remove (key : Key) : List (Σ key : Key, Value key) → List (Σ key : Key, Value key)
  | [] => []
  | entry :: rest => if entry.1 = key then remove key rest else entry :: remove key rest

/-- The table without a key. -/
def erase (table : Table Key Value) (key : Key) : Table Key Value :=
  ⟨remove key table.entries⟩

/-! ## Part 2 — what a change does -/

/-- A replaced value is found. -/
theorem find_replace_self (key : Key) (value : Value key)
    (entries : List (Σ key : Key, Value key)) :
    find key (replace key value entries) = some value := by
  induction entries with
  | nil => simp [replace, find]
  | cons entry rest hypothesis =>
    by_cases same : entry.1 = key
    · simp [replace, find, same]
    · simp [replace, find, same, hypothesis]

/-- Other values stay when one is replaced. -/
theorem find_replace_of_ne {key other : Key} (value : Value key) (differ : other ≠ key)
    (entries : List (Σ key : Key, Value key)) :
    find other (replace key value entries) = find other entries := by
  induction entries with
  | nil => simp [replace, find, Ne.symm differ]
  | cons entry rest hypothesis =>
    by_cases same : entry.1 = key
    · simp [replace, find, same, Ne.symm differ]
    · simp [replace, find, same, hypothesis]

/-- A removed key has no value. -/
theorem find_remove_self (key : Key) (entries : List (Σ key : Key, Value key)) :
    find key (remove key entries) = none := by
  induction entries with
  | nil => rfl
  | cons entry rest hypothesis =>
    by_cases same : entry.1 = key
    · simpa [remove, same] using hypothesis
    · simpa [remove, find, same] using hypothesis

/-- Other values stay when a key is removed. -/
theorem find_remove_of_ne {key other : Key} (differ : other ≠ key)
    (entries : List (Σ key : Key, Value key)) :
    find other (remove key entries) = find other entries := by
  induction entries with
  | nil => rfl
  | cons entry rest hypothesis =>
    by_cases same : entry.1 = key
    · simp [remove, find, same, Ne.symm differ, hypothesis]
    · simp [remove, find, same, hypothesis]

/-- A value that has just been set is found. -/
@[simp]
theorem get?_set_self (table : Table Key Value) (key : Key) (value : Value key) :
    (table.set key value).get? key = some value :=
  find_replace_self key value table.entries

/-- Setting a value leaves the values of other keys alone. -/
@[simp]
theorem get?_set_of_ne (table : Table Key Value) {key other : Key} (value : Value key)
    (differ : other ≠ key) : (table.set key value).get? other = table.get? other :=
  find_replace_of_ne value differ table.entries

/-- An erased key has no value. -/
@[simp]
theorem get?_erase_self (table : Table Key Value) (key : Key) :
    (table.erase key).get? key = none :=
  find_remove_self key table.entries

/-- Erasing a key leaves the values of other keys alone. -/
@[simp]
theorem get?_erase_of_ne (table : Table Key Value) {key other : Key} (differ : other ≠ key) :
    (table.erase key).get? other = table.get? other :=
  find_remove_of_ne differ table.entries

/-- The empty table has no values. -/
@[simp]
theorem get?_empty (key : Key) : (empty : Table Key Value).get? key = none := rfl

end Table

end LayeredConfig.Conversion
