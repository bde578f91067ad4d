/-
Tables from keys to values. A table keeps its keys in the order of their first arrival; a sorted
list of entries keeps them in ascending order.
-/
namespace FormBuilder

/-- Rows by key, each key once, in the order in which the keys arrived. -/
structure Table (α : Type) where
  rows : List (String × α)

namespace Table

variable {α : Type}

def empty : Table α := ⟨[]⟩

def get? (t : Table α) (key : String) : Option α := t.rows.lookup key

def keys (t : Table α) : List String := t.rows.map (·.1)

def size (t : Table α) : Nat := t.rows.length

/-- Replaces the value of a key in its row, or adds a row at the end. -/
def putRow (key : String) (value : α) : List (String × α) → List (String × α)
  | [] => [(key, value)]
  | (k, v) :: rows => if k == key then (k, value) :: rows else (k, v) :: putRow key value rows

def put (t : Table α) (key : String) (value : α) : Table α := ⟨putRow key value t.rows⟩

/-- Adds a row unless the key has one. -/
def add (t : Table α) (key : String) (value : α) : Table α :=
  if (t.get? key).isSome then t else ⟨t.rows ++ [(key, value)]⟩

/-- Changes the value of a key that has a row. -/
def update (t : Table α) (key : String) (f : α → α) : Table α :=
  ⟨t.rows.map fun (k, v) => if k == key then (k, f v) else (k, v)⟩

/-- The table of a list of entries, where a later entry of a key replaces an earlier one. -/
def ofList (entries : List (String × α)) : Table α :=
  entries.foldl (fun t e => t.put e.1 e.2) empty

end Table

/-! ## Sorted entries -/

/-- Puts an entry into a list sorted by key, in the place of an entry of the same key. -/
def putSorted (key : String) (value : α) : List (String × α) → List (String × α)
  | [] => [(key, value)]
  | (k, v) :: rest =>
    if key < k then (key, value) :: (k, v) :: rest
    else if k == key then (key, value) :: rest
    else (k, v) :: putSorted key value rest

/-- The entries in ascending order of their keys; of several entries of a key the last is kept. -/
def sortEntries (entries : List (String × α)) : List (String × α) :=
  entries.foldl (fun sorted e => putSorted e.1 e.2 sorted) []

end FormBuilder
