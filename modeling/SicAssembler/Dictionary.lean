/-
This file defines dictionaries from names to values that remember the order in
which their names came. The assembler keeps its symbols, its operation codes
and the labels of a sidecar in them. No name occurs twice, which is part of the
type, so an entry found by its name is the only one.

There are two ways to add an entry. `insertIfNew` keeps what a name already
stands for, `insert` replaces it; both leave the place of a known name as it is.
-/

namespace SicAssembler

/-- Names with their values, in the order in which the names were added. -/
@[ext]
structure Dictionary (Value : Type) where
  entries : List (String × Value)
  distinct : (entries.map Prod.fst).Nodup

namespace Dictionary

variable {Value : Type}

instance [DecidableEq Value] : DecidableEq (Dictionary Value) := fun left right =>
  decidable_of_iff (left.entries = right.entries) Dictionary.ext_iff.symm

/-- The dictionary without entries. -/
def empty : Dictionary Value := ⟨[], List.nodup_nil⟩

instance : Inhabited (Dictionary Value) := ⟨empty⟩

/-- The names in the order in which they were added. -/
def names (dictionary : Dictionary Value) : List String :=
  dictionary.entries.map Prod.fst

/-- The number of entries. -/
def size (dictionary : Dictionary Value) : Nat := dictionary.entries.length

/-- Whether there are no entries. -/
def isEmpty (dictionary : Dictionary Value) : Bool := dictionary.entries.isEmpty

/-- The value that a name stands for. -/
def get? (dictionary : Dictionary Value) (name : String) : Option Value :=
  (dictionary.entries.find? fun entry => entry.1 = name).map Prod.snd

/-- Whether a name stands for a value. -/
def contains (dictionary : Dictionary Value) (name : String) : Bool :=
  dictionary.entries.any fun entry => entry.1 = name

/-! ### Adding entries -/

theorem contains_eq_true_iff {dictionary : Dictionary Value} {name : String} :
    dictionary.contains name = true ↔ name ∈ dictionary.entries.map Prod.fst := by
  simp [contains]

theorem nodup_append_name {dictionary : Dictionary Value} {name : String} (value : Value)
    (fresh : ¬ dictionary.contains name = true) :
    ((dictionary.entries ++ [(name, value)]).map Prod.fst).Nodup := by
  rw [contains_eq_true_iff] at fresh
  rw [List.map_append, List.nodup_append]
  refine ⟨dictionary.distinct, by simp, fun other member last equal same => fresh ?_⟩
  simp only [List.map_cons, List.map_nil, List.mem_singleton] at equal
  rw [← equal, ← same]
  exact member

/-- Where names are distinct, one that comes later is new. -/
theorem not_contains_of_nodup {dictionary : Dictionary Value} {entry : String × Value}
    {later : List (String × Value)}
    (distinct : ((dictionary.entries ++ entry :: later).map Prod.fst).Nodup) :
    ¬ dictionary.contains entry.1 = true := by
  intro known
  rw [contains_eq_true_iff] at known
  rw [List.map_append, List.map_cons] at distinct
  exact (List.nodup_append.mp distinct).2.2 entry.1 known entry.1 List.mem_cons_self rfl

/-- Add a name at the end; a known name keeps its value. -/
def insertIfNew (dictionary : Dictionary Value) (name : String) (value : Value) :
    Dictionary Value :=
  if fresh : dictionary.contains name then dictionary
  else ⟨dictionary.entries ++ [(name, value)], nodup_append_name value fresh⟩

/-- A known name keeps its value. -/
theorem insertIfNew_of_contains {dictionary : Dictionary Value} {name : String} (value : Value)
    (known : dictionary.contains name = true) : dictionary.insertIfNew name value = dictionary := by
  rw [insertIfNew, dif_pos known]

/-- A new name comes last. -/
theorem entries_insertIfNew_of_not_contains {dictionary : Dictionary Value} {name : String}
    (value : Value) (fresh : ¬ dictionary.contains name = true) :
    (dictionary.insertIfNew name value).entries = dictionary.entries ++ [(name, value)] := by
  rw [insertIfNew, dif_neg fresh]

/-- The entry under a new value if it is the one of the given name. -/
def replaceEntry (name : String) (value : Value) (entry : String × Value) : String × Value :=
  if entry.1 = name then (name, value) else entry

theorem fst_replaceEntry (name : String) (value : Value) (entry : String × Value) :
    (replaceEntry name value entry).1 = entry.1 := by
  unfold replaceEntry
  split
  · next same => exact same.symm
  · rfl

theorem map_fst_replaceEntry (name : String) (value : Value) (entries : List (String × Value)) :
    (entries.map (replaceEntry name value)).map Prod.fst = entries.map Prod.fst := by
  rw [List.map_map]
  exact List.map_congr_left fun entry _ => fst_replaceEntry name value entry

/-- Give a name a value; a known name keeps its place and a new one comes last. -/
def insert (dictionary : Dictionary Value) (name : String) (value : Value) : Dictionary Value :=
  if fresh : dictionary.contains name then
    ⟨dictionary.entries.map (replaceEntry name value),
      by rw [map_fst_replaceEntry]; exact dictionary.distinct⟩
  else ⟨dictionary.entries ++ [(name, value)], nodup_append_name value fresh⟩

theorem entries_insert_of_not_contains {dictionary : Dictionary Value} {name : String}
    (value : Value) (fresh : ¬ dictionary.contains name = true) :
    (dictionary.insert name value).entries = dictionary.entries ++ [(name, value)] := by
  rw [insert, dif_neg fresh]

/-- The dictionary in which the first value listed for a name counts. -/
def ofListFirst (pairs : List (String × Value)) : Dictionary Value :=
  pairs.foldl (fun dictionary pair => dictionary.insertIfNew pair.1 pair.2) empty

/-- The dictionary in which the last value listed for a name counts. -/
def ofListLast (pairs : List (String × Value)) : Dictionary Value :=
  pairs.foldl (fun dictionary pair => dictionary.insert pair.1 pair.2) empty

/-! ### Comparing entries -/

/-- Whether two dictionaries hold the same entries, in whatever order. -/
def sameEntries [DecidableEq Value] (left right : Dictionary Value) : Bool :=
  left.size = right.size && left.entries.all fun entry => right.get? entry.1 = some entry.2

end Dictionary

end SicAssembler
