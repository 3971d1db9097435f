import Wiring.Upsert

/-!
# Properties · Ordered pairs

A property list: pairs of texts with distinct keys, kept in the order in which the keys first came.
A key that comes again gets its new value at its old place. The view is `entries`; `insert` is
described on it by `get?_insert` and `keys_insert`.
-/

namespace Wiring

/-! ## Property lists -/

/-- Pairs with distinct keys, in the order in which the keys first came. -/
structure Properties where
  /-- The pairs. -/
  entries : List (String × String)
  /-- No key stands twice. -/
  nodup_keys : (entries.map Prod.fst).Nodup
deriving DecidableEq, Repr

namespace Properties

/-- The list without a pair. -/
def empty : Properties := ⟨[], by simp⟩

instance : EmptyCollection Properties := ⟨empty⟩
instance : Inhabited Properties := ⟨empty⟩

/-- Sets the value of a key, at its old place when the key is known and at the end otherwise. -/
def insert (p : Properties) (key value : String) : Properties where
  entries := upsert key value p.entries
  nodup_keys := by
    rw [map_fst_upsert]
    by_cases h : key ∈ p.entries.map Prod.fst
    · simpa [h] using p.nodup_keys
    · rw [if_neg h, List.nodup_append]
      exact ⟨p.nodup_keys, by simp, fun a ha b hb => by
        rintro rfl; exact h (by simpa [List.mem_singleton.1 hb] using ha)⟩

/-- The property list of pairs inserted one after the other. -/
def ofList (pairs : List (String × String)) : Properties :=
  pairs.foldl (fun p pair => p.insert pair.1 pair.2) ∅

/-- The value of a key. -/
def get? (p : Properties) (key : String) : Option String :=
  p.entries.lookup key

/-- The keys in order. -/
def keys (p : Properties) : List String :=
  p.entries.map Prod.fst

/-- The number of pairs. -/
def size (p : Properties) : Nat :=
  p.entries.length

/-- Whether there is no pair. -/
def isEmpty (p : Properties) : Bool :=
  p.entries.isEmpty

/-! ## Laws of insertion -/

/-- An empty property list has no entries. -/
@[simp] theorem entries_empty : (∅ : Properties).entries = [] := rfl

/-- Property lists with the same entries are equal. -/
@[ext] theorem ext {p q : Properties} (h : p.entries = q.entries) : p = q := by
  cases p; cases q; simp_all

/-- The value that is inserted stands under its key, and nothing else changes. -/
theorem get?_insert (p : Properties) (key value query : String) :
    (p.insert key value).get? query = if query = key then some value else p.get? query :=
  lookup_upsert ..

/-- A new key comes last, and one that is there stays where it is. -/
theorem keys_insert (p : Properties) (key value : String) :
    (p.insert key value).keys = if key ∈ p.keys then p.keys else p.keys ++ [key] :=
  map_fst_upsert ..

end Properties

end Wiring
