/-!
# Lists of pairs

Setting the value of a key in a list of pairs: the first pair with the key gets it in its old place,
and a new key comes at the end. What keys there are is said by `map_fst_upsert`, what stands under
them by `lookup_upsert`.
-/

namespace Wiring

variable {α : Type}

/-- Look-up in a list of pairs, with equality of keys. -/
theorem lookup_cons_eq_ite (key query : String) (value : α) (pairs : List (String × α)) :
    ((key, value) :: pairs).lookup query =
      if query = key then some value else pairs.lookup query := by
  by_cases h : query = key
  · simp [h]
  · have hne : (query == key) = false := by simpa using h
    simp [List.lookup_cons, hne, h]

/-- Replaces the value of the first pair with the key, or adds the pair at the end. -/
def upsert (key : String) (value : α) : List (String × α) → List (String × α)
  | [] => [(key, value)]
  | entry :: entries =>
    if entry.1 = key then (key, value) :: entries else entry :: upsert key value entries

/-- The keys after an `upsert`: the same, or one more at the end. -/
theorem map_fst_upsert (key : String) (value : α) (entries : List (String × α)) :
    (upsert key value entries).map Prod.fst =
      if key ∈ entries.map Prod.fst then entries.map Prod.fst
      else entries.map Prod.fst ++ [key] := by
  induction entries with
  | nil => simp [upsert]
  | cons entry entries ih =>
    by_cases h : entry.1 = key
    · simp [upsert, h]
    · have h' : ¬key = entry.1 := fun e => h e.symm
      by_cases hk : key ∈ entries.map Prod.fst
      · simp only [List.mem_map] at hk
        simp [upsert, h, h', ih, hk]
      · simp only [List.mem_map] at hk
        simp [upsert, h, h', ih, hk]

/-- Look-up after an `upsert`. -/
theorem lookup_upsert (key : String) (value : α) (query : String) (entries : List (String × α)) :
    (upsert key value entries).lookup query =
      if query = key then some value else entries.lookup query := by
  induction entries with
  | nil => rw [upsert, lookup_cons_eq_ite]
  | cons entry entries ih =>
    obtain ⟨k, v⟩ := entry
    by_cases hk : k = key
    · subst hk
      rw [upsert, if_pos rfl, lookup_cons_eq_ite, lookup_cons_eq_ite]
      split <;> rfl
    · rw [upsert, if_neg hk, lookup_cons_eq_ite, lookup_cons_eq_ite, ih]
      split
      · rename_i h
        rw [if_neg (h ▸ hk)]
      · rfl

end Wiring
