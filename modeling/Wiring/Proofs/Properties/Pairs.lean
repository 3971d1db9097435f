import Mathlib.Data.List.Induction
import Wiring.Proofs.Upsert
import Wiring.Properties.Basic

/-!
# Properties · What a list of pairs becomes

`Properties.ofList` inserts pairs one after the other. Its keys are the distinct keys of the pairs
in the order in which they first came (`keys_ofList`), and a key has the value that came last for it
(`get?_ofList`). Pairs with distinct keys are kept as they are (`entries_ofList_of_nodup`), and only
those: where a key comes again, there are fewer entries than pairs (`size_ofList_eq_iff`).
-/

namespace Wiring.Properties

/-! ## Insertion one after the other -/

/-- To insert a pair is to upsert it among the entries. -/
theorem entries_insert (p : Properties) (key value : String) :
    (p.insert key value).entries = upsert key value p.entries := rfl

/-- The last pair of a list is inserted last. -/
theorem ofList_append_singleton (pairs : List (String × String)) (pair : String × String) :
    ofList (pairs ++ [pair]) = (ofList pairs).insert pair.1 pair.2 := by
  simp [ofList]

/-- **The keys** are the distinct keys of the pairs, in the order in which they first came. -/
theorem keys_ofList (pairs : List (String × String)) :
    (ofList pairs).keys = (pairs.map Prod.fst).eraseDups := by
  induction pairs using List.reverseRecOn with
  | nil => rfl
  | append_singleton pairs pair ih =>
    rw [ofList_append_singleton, keys_insert, ih, List.map_append, List.eraseDups_append]
    by_cases h : pair.1 ∈ pairs.map Prod.fst
    · simp [h, List.mem_eraseDups, List.removeAll]
    · simp [h, List.mem_eraseDups, List.removeAll, List.eraseDups_cons]

/-- **The value** of a key is the one that came last for it. -/
theorem get?_ofList (pairs : List (String × String)) (key : String) :
    (ofList pairs).get? key = pairs.reverse.lookup key := by
  induction pairs using List.reverseRecOn with
  | nil => rfl
  | append_singleton pairs pair ih =>
    obtain ⟨name, value⟩ := pair
    rw [ofList_append_singleton, get?_insert, ih, List.reverse_append, List.reverse_singleton,
      List.singleton_append, lookup_cons_eq_ite]

/-- A pair stands in a property list exactly when its key has its value. -/
theorem mem_entries_iff_get? {p : Properties} {pair : String × String} :
    pair ∈ p.entries ↔ p.get? pair.1 = some pair.2 :=
  (lookup_eq_some_iff_mem p.nodup_keys).symm

/-- The keys of a list of pairs made are those of the pairs. -/
theorem mem_keys_ofList {pairs : List (String × String)} {key : String} :
    key ∈ (ofList pairs).keys ↔ key ∈ pairs.map Prod.fst := by
  rw [keys_ofList, List.mem_eraseDups]

/-! ## Distinct keys -/

/-- **Pairs with distinct keys** are kept as they are. -/
theorem entries_ofList_of_nodup {pairs : List (String × String)}
    (h : (pairs.map Prod.fst).Nodup) : (ofList pairs).entries = pairs := by
  induction pairs using List.reverseRecOn with
  | nil => rfl
  | append_singleton pairs pair ih =>
    rw [List.map_append, List.nodup_append] at h
    have hpairs := ih h.1
    have hnew : pair.1 ∉ (ofList pairs).entries.map Prod.fst := by
      rw [hpairs]
      exact fun hmem => h.2.2 _ hmem _ (by simp) rfl
    rw [ofList_append_singleton, entries_insert, upsert_of_not_mem hnew, hpairs]

/-- One entry is added exactly where the key is new. -/
theorem size_insert (p : Properties) (key value : String) :
    (p.insert key value).size = if key ∈ p.keys then p.size else p.size + 1 := by
  have hsize (q : Properties) : q.size = q.keys.length := by simp [size, keys]
  rw [hsize, hsize, keys_insert]
  split <;> simp

/-- There are no more entries than pairs. -/
theorem size_ofList_le (pairs : List (String × String)) : (ofList pairs).size ≤ pairs.length := by
  induction pairs using List.reverseRecOn with
  | nil => exact Nat.le_refl 0
  | append_singleton pairs pair ih =>
    rw [ofList_append_singleton, size_insert, List.length_append, List.length_singleton]
    split <;> omega

/-- **No pair is lost** exactly when the keys are distinct. -/
theorem size_ofList_eq_iff (pairs : List (String × String)) :
    (ofList pairs).size = pairs.length ↔ (pairs.map Prod.fst).Nodup := by
  constructor
  · intro h
    induction pairs using List.reverseRecOn with
    | nil => exact List.nodup_nil
    | append_singleton pairs pair ih =>
      have hle := size_ofList_le pairs
      rw [ofList_append_singleton, size_insert, List.length_append, List.length_singleton] at h
      by_cases hmem : pair.1 ∈ (ofList pairs).keys
      · rw [if_pos hmem] at h
        omega
      · rw [if_neg hmem] at h
        rw [mem_keys_ofList] at hmem
        rw [List.map_append, List.nodup_append]
        refine ⟨ih (by omega), by simp, ?_⟩
        intro key hkey other hother
        rw [List.map_singleton, List.mem_singleton] at hother
        rintro rfl
        exact hmem (hother ▸ hkey)
  · intro h
    rw [size, entries_ofList_of_nodup h]

end Wiring.Properties
