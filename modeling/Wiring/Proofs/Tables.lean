import Mathlib.Data.List.Induction
import Wiring.Table

/-!
# Tables · Filling them one by one

Laws of look-up after an insertion, with equality of names in place of their order
(`Table.getElem?_insert`), and what they give for tables filled from a list: a table of pairs holds
what came, where every name came with one value (`Table.getElem?_ofPairs_eq_some_iff`), and
`groupTable` collects lists under names, each in the order in which its items came
(`getD_groupTable`).
-/

namespace Wiring

variable {α : Type}

/-! ## One insertion -/

/-- What is inserted stands under its key, and nothing else changes. -/
theorem Table.getElem?_insert (table : Table α) (key query : String) (a : α) :
    (table.insert key a)[query]? = if query = key then some a else table[query]? := by
  rw [Std.ExtTreeMap.getElem?_insert]
  simp only [Std.compare_eq_iff_eq, @eq_comm _ key query]

/-- With a default as well, only what stands under the inserted key changes. -/
theorem Table.getD_insert (table : Table α) (key query : String) (a dflt : α) :
    (table.insert key a).getD query dflt = if query = key then a else table.getD query dflt := by
  rw [Std.ExtTreeMap.getD_insert]
  simp only [Std.compare_eq_iff_eq, @eq_comm _ key query]

/-- A key is listed after an insertion if it is inserted or was listed before. -/
theorem Table.mem_insert (table : Table α) (key query : String) (a : α) :
    query ∈ table.insert key a ↔ query = key ∨ query ∈ table := by
  rw [Std.ExtTreeMap.mem_insert, Std.compare_eq_iff_eq, eq_comm]

/-! ## Tables of pairs -/

/-- The last pair is inserted last. -/
theorem Table.ofPairs_append_singleton (pairs : List (String × α)) (pair : String × α) :
    Table.ofPairs (pairs ++ [pair]) = (Table.ofPairs pairs).insert pair.1 pair.2 := by
  simp [Table.ofPairs]

/-- The keys of a table are those of the pairs it is made of. -/
theorem Table.mem_ofPairs (pairs : List (String × α)) (name : String) :
    name ∈ Table.ofPairs pairs ↔ name ∈ pairs.map Prod.fst := by
  induction pairs using List.reverseRecOn with
  | nil => simp [Table.ofPairs]
  | append_singleton pairs pair ih =>
    rw [ofPairs_append_singleton, Table.mem_insert, ih, List.map_append, List.mem_append,
      List.map_singleton, List.mem_singleton, or_comm]

/-- What stands under a name came with that name. -/
theorem Table.mem_of_getElem?_ofPairs {pairs : List (String × α)} {name : String} {a : α}
    (h : (Table.ofPairs pairs)[name]? = some a) : (name, a) ∈ pairs := by
  rw [getElem?_ofPairs, List.lookup_eq_some_iff] at h
  obtain ⟨before, after, hsplit, -⟩ := h
  have hmem : (name, a) ∈ pairs.reverse := by simp [hsplit]
  exact List.mem_reverse.1 hmem

/-- **Where every name has one value** among the pairs, that value stands under it. -/
theorem Table.getElem?_ofPairs_eq_some_iff {pairs : List (String × α)}
    (hone : ∀ name a b, (name, a) ∈ pairs → (name, b) ∈ pairs → a = b) {name : String} {a : α} :
    (Table.ofPairs pairs)[name]? = some a ↔ (name, a) ∈ pairs := by
  constructor
  · exact mem_of_getElem?_ofPairs
  · intro ha
    have hname : name ∈ Table.ofPairs pairs :=
      (mem_ofPairs pairs name).2 (List.mem_map_of_mem ha)
    rw [Std.ExtTreeMap.mem_iff_isSome_getElem?, Option.isSome_iff_exists] at hname
    obtain ⟨b, hb⟩ := hname
    rw [hb, hone name b a (mem_of_getElem?_ofPairs hb) ha]

/-- **The last value counts** of those that came with a name. -/
theorem Table.getElem?_ofPairs_eq_getLast? (pairs : List (String × α)) (name : String) :
    (Table.ofPairs pairs)[name]? = ((pairs.filter (·.1 = name)).map Prod.snd).getLast? := by
  induction pairs using List.reverseRecOn with
  | nil => simp [Table.ofPairs]
  | append_singleton pairs pair ih =>
    rw [ofPairs_append_singleton, Table.getElem?_insert, ih, List.filter_append, List.map_append]
    by_cases h : pair.1 = name
    · simp [h]
    · simp [h, Ne.symm h]

/-- **No pair is lost** where no name stands twice. -/
theorem Table.size_ofPairs_of_nodup {pairs : List (String × α)}
    (h : (pairs.map Prod.fst).Nodup) : (Table.ofPairs pairs).size = pairs.length := by
  induction pairs using List.reverseRecOn with
  | nil => rfl
  | append_singleton pairs pair ih =>
    rw [List.map_append, List.nodup_append] at h
    have hnew : pair.1 ∉ Table.ofPairs pairs := by
      rw [mem_ofPairs]
      exact fun hmem => h.2.2 _ hmem _ (by simp) rfl
    rw [ofPairs_append_singleton, Std.ExtTreeMap.size_insert,
      if_neg (mt Std.ExtTreeMap.mem_iff_contains.2 hnew), ih h.1, List.length_append,
      List.length_singleton]

/-! ## Lists under names -/

/-- Adds items to the list that stands under a name. -/
def Table.push (table : Table (List α)) (chunk : String × List α) : Table (List α) :=
  table.insert chunk.1 (table.getD chunk.1 [] ++ chunk.2)

/-- The lists of items under their names, each in the order in which its items came. -/
def groupTable (chunks : List (String × List α)) : Table (List α) :=
  chunks.foldl Table.push ∅

/-- The last chunk is appended last. -/
theorem groupTable_append_singleton (chunks : List (String × List α)) (chunk : String × List α) :
    groupTable (chunks ++ [chunk]) = (groupTable chunks).push chunk := by
  simp [groupTable]

/-- **What stands under a name** is what came under that name, in order. -/
theorem getD_groupTable (chunks : List (String × List α)) (name : String) :
    (groupTable chunks).getD name [] = (chunks.filter (·.1 = name)).flatMap Prod.snd := by
  induction chunks using List.reverseRecOn with
  | nil => rfl
  | append_singleton chunks chunk ih =>
    rw [groupTable_append_singleton, Table.push, Table.getD_insert, List.filter_append,
      List.flatMap_append, ← ih]
    by_cases h : chunk.1 = name
    · simp [h]
    · simp [h, Ne.symm h]

/-- The names are those that came. -/
theorem mem_groupTable (chunks : List (String × List α)) (name : String) :
    name ∈ groupTable chunks ↔ name ∈ chunks.map Prod.fst := by
  induction chunks using List.reverseRecOn with
  | nil => simp [groupTable]
  | append_singleton chunks chunk ih =>
    rw [groupTable_append_singleton, Table.push, Table.mem_insert, ih, List.map_append,
      List.mem_append, List.map_singleton, List.mem_singleton, or_comm]

end Wiring
