import Std.Data.ExtTreeMap
import Std.Data.ExtTreeSet

/-!
# Tables

Finite maps with text keys. A table is listed in ascending key order, characters being compared by
code point, and two tables with the same look-ups are equal, so nothing depends on the order in
which a table was filled. What a list of names or pairs becomes is said by `NameSet.mem_ofNames` and
`Table.getElem?_ofPairs`.
-/

namespace Wiring

/-- A finite map from names to values of type `α`. -/
abbrev Table (α : Type) := Std.ExtTreeMap String α

/-- A finite set of names. -/
abbrev NameSet := Std.ExtTreeSet String

/-- The table of a list of pairs; of two pairs with one key the later counts. -/
def Table.ofPairs {α : Type} (pairs : List (String × α)) : Table α :=
  pairs.foldl (fun table pair => table.insert pair.1 pair.2) ∅

/-- The set of the names in a list. -/
def NameSet.ofNames (names : List String) : NameSet :=
  names.foldl (fun set name => set.insert name) ∅

/-! ## Laws -/

/-- A name is in the set of a list exactly when it is in the list. -/
theorem NameSet.mem_ofNames {name : String} {names : List String} :
    name ∈ NameSet.ofNames names ↔ name ∈ names := by
  have step : ∀ set : NameSet, name ∈ names.foldl (fun set name => set.insert name) set ↔
      name ∈ set ∨ name ∈ names := by
    induction names with
    | nil => simp
    | cons first rest ih =>
      intro set
      rw [List.foldl_cons, ih, List.mem_cons, Std.ExtTreeSet.mem_insert, Std.compare_eq_iff_eq]
      grind
  rw [ofNames, step]
  simp

/-- The later of two pairs with one key counts. -/
theorem Table.getElem?_ofPairs {α : Type} (pairs : List (String × α)) (key : String) :
    (Table.ofPairs pairs)[key]? = pairs.reverse.lookup key := by
  have step : ∀ table : Table α,
      (pairs.foldl (fun table pair => table.insert pair.1 pair.2) table)[key]? =
        (pairs.reverse.lookup key).or table[key]? := by
    induction pairs with
    | nil => simp
    | cons first rest ih =>
      intro table
      obtain ⟨name, value⟩ := first
      rw [List.foldl_cons, ih, List.reverse_cons, List.lookup_append, Option.or_assoc]
      by_cases h : key = name
      · simp [h]
      · have hkey : (key == name) = false := by simpa using h
        have hname : ¬name = key := fun e => h e.symm
        simp [List.lookup_cons, hkey, hname, Std.ExtTreeMap.getElem?_insert]
  rw [ofPairs, step]
  simp

end Wiring
