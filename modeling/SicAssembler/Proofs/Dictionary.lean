/-
This file says what a name stands for once an entry was added to a dictionary.
No name occurs twice, so an entry that is found by its name is the only one; a
name that is added if new keeps what it stood for, and a name that is given a
value stands for that value from then on. No other name is affected.
-/

import SicAssembler.Dictionary

namespace SicAssembler

namespace Dictionary

variable {Value : Type}

/-! ### Names that are added if new -/

/-- A name stands for a value if and only if it is contained. -/
theorem isSome_get? (dictionary : Dictionary Value) (name : String) :
    (dictionary.get? name).isSome = dictionary.contains name := by
  rw [get?, Option.isSome_map, List.isSome_find?, contains]

/-- A name that is added if new stands for the new value only if it stood for none. -/
theorem get?_insertIfNew (dictionary : Dictionary Value) (name other : String) (value : Value) :
    (dictionary.insertIfNew name value).get? other =
      (dictionary.get? other).or (if name = other then some value else none) := by
  by_cases known : dictionary.contains name = true
  · rw [insertIfNew_of_contains value known]
    by_cases same : name = other
    · obtain ⟨old, found⟩ := Option.isSome_iff_exists.mp
        ((dictionary.isSome_get? name).trans known)
      rw [← same, found, Option.some_or]
    · rw [if_neg same, Option.or_none]
  · rw [get?, entries_insertIfNew_of_not_contains value known, List.find?_append, Option.map_or,
      ← get?, List.find?_singleton]
    by_cases same : name = other <;> simp [same]

/-- An entry of a dictionary is found by its name, since no other has that name. -/
theorem get?_of_mem (dictionary : Dictionary Value) {entry : String × Value}
    (member : entry ∈ dictionary.entries) :
    dictionary.get? entry.1 = some entry.2 := by
  have distinct := dictionary.distinct
  unfold get?
  generalize dictionary.entries = entries at member distinct ⊢
  induction entries with
  | nil => cases member
  | cons first rest inductionHypothesis =>
    obtain ⟨fresh, later⟩ := List.nodup_cons.mp distinct
    rcases List.mem_cons.mp member with rfl | inRest
    · simp
    · have other : ¬ first.1 = entry.1 := by
        intro same
        exact fresh (same ▸ List.mem_map_of_mem inRest)
      rw [List.find?_cons_of_neg (by simpa using other)]
      exact inductionHypothesis inRest later

/-! ### Names that are given a value -/

/-- A name that is given a value stands for it, and every other name for what it stood for. -/
theorem get?_insert (dictionary : Dictionary Value) (name other : String) (value : Value) :
    (dictionary.insert name value).get? other =
      if name = other then some value else dictionary.get? other := by
  unfold insert
  split
  · next known =>
    have sameNames : (fun entry : String × Value => decide (entry.1 = other)) ∘
        replaceEntry name value = fun entry => decide (entry.1 = other) := by
      funext entry
      rw [Function.comp_apply, fst_replaceEntry]
    rw [get?, List.find?_map, sameNames, Option.map_map]
    by_cases same : name = other
    · rw [if_pos same]
      obtain ⟨entry, found⟩ : ∃ entry, dictionary.entries.find? (fun entry => entry.1 = other) =
          some entry := by
        rw [← Option.isSome_iff_exists, List.isSome_find?, ← same]
        exact known
      have isNamed : entry.1 = other := by simpa using List.find?_some found
      rw [found, Option.map_some, Function.comp_apply, replaceEntry,
        if_pos (isNamed.trans same.symm)]
    · rw [if_neg same, get?]
      refine Option.map_congr fun entry found => ?_
      have isNamed : entry.1 = other := by simpa using List.find?_some found
      rw [Function.comp_apply, replaceEntry, if_neg fun equal => same (equal.symm.trans isNamed)]
  · next fresh =>
    rw [get?, List.find?_append, List.find?_singleton]
    by_cases same : name = other
    · have unknown : dictionary.entries.find? (fun entry => entry.1 = other) = none := by
        rw [← Option.not_isSome_iff_eq_none, List.isSome_find?, ← same]
        exact fresh
      simp [unknown, same]
    · simp [same, get?]

end Dictionary

end SicAssembler
