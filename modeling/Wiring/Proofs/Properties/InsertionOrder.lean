import Wiring.Instantiation.Parameters
import Wiring.Proofs.Properties.Pairs
import Wiring.Proofs.Steps
import Wiring.Proofs.Tables
import Wiring.Properties.Text

/-!
# Properties · The order of insertion

A property list is a map that remembers in which order its keys came. `InsertionOrdered` says what
it holds after some pairs were inserted one after the other, told by these pairs alone: which keys
there are, in which order they stand and with which values. One more insertion keeps that
(`InsertionOrdered.insert`), so it is kept by any number of them (`InsertionOrdered.insertAll`).
Parameters are ordered by key instead and find the last pair with a key rather than the first; as no
key stands twice, they hold the same (`Parameters.get?_ofProperties`,
`Parameters.size_ofProperties`). Main statement: `insertionOrdered_ofList`.
-/

namespace Wiring

namespace Properties

/-! ## Pairs that were inserted -/

/-- Whether the last of the pairs with a key has the given value. -/
def LastUnder (pairs : List (String × String)) (key value : String) : Prop :=
  ∃ before after, pairs = before ++ (key, value) :: after ∧ key ∉ after.map Prod.fst

variable {pairs : List (String × String)} {p : Properties}

/-- **One more pair** is the last one with its key and none with another key. -/
theorem lastUnder_append_singleton_iff {name value query result : String} :
    LastUnder (pairs ++ [(name, value)]) query result ↔
      if query = name then value = result else LastUnder pairs query result := by
  constructor
  · rintro ⟨before, after, hsplit, hlast⟩
    cases after using List.reverseRecOn with
    | nil =>
      obtain ⟨-, hpair⟩ := List.append_inj' hsplit rfl
      obtain ⟨rfl, rfl⟩ := Prod.mk.inj (List.cons.inj hpair).1
      rw [if_pos rfl]
    | append_singleton after last =>
      rw [← List.cons_append, ← List.append_assoc] at hsplit
      obtain ⟨rfl, hpair⟩ := List.append_inj' hsplit rfl
      obtain rfl := (List.cons.inj hpair).1
      rw [List.map_append, List.mem_append, not_or] at hlast
      rw [if_neg (by simpa using hlast.2)]
      exact ⟨before, after, rfl, hlast.1⟩
  · intro h
    split at h
    · next hquery =>
      subst hquery h
      exact ⟨pairs, [], rfl, by simp⟩
    · next hquery =>
      obtain ⟨before, after, rfl, hlast⟩ := h
      refine ⟨before, after ++ [(name, value)], by simp, ?_⟩
      rw [List.map_append, List.mem_append, not_or]
      exact ⟨hlast, by simpa using hquery⟩

/-! ## What is kept of them -/

/-- Whether a property list is what insertion of pairs, one after the other, should leave. -/
structure InsertionOrdered (pairs : List (String × String)) (p : Properties) : Prop where
  /-- No key stands twice. -/
  distinct : p.keys.Nodup
  /-- The keys are those that came. -/
  mem_keys : ∀ key, key ∈ p.keys ↔ key ∈ pairs.map Prod.fst
  /-- They stand in the order in which each of them first came. -/
  order : p.keys.Pairwise fun a b =>
    (pairs.map Prod.fst).idxOf a < (pairs.map Prod.fst).idxOf b
  /-- A key stands together with the value that came last for it. -/
  paired : ∀ key value, (key, value) ∈ p.entries ↔ LastUnder pairs key value
  /-- That value is what is found under the key. -/
  get? : ∀ key value, p.get? key = some value ↔ LastUnder pairs key value

namespace InsertionOrdered

/-- The order of the keys and the values found under them are all there is to show. -/
theorem of_get? (mem_keys : ∀ key, key ∈ p.keys ↔ key ∈ pairs.map Prod.fst)
    (order : p.keys.Pairwise fun a b =>
      (pairs.map Prod.fst).idxOf a < (pairs.map Prod.fst).idxOf b)
    (get? : ∀ key value, p.get? key = some value ↔ LastUnder pairs key value) :
    InsertionOrdered pairs p where
  distinct := by
    refine order.imp fun hlt => ?_
    rintro rfl
    exact Nat.lt_irrefl _ hlt
  mem_keys := mem_keys
  order := order
  paired key value := mem_entries_iff_get?.trans (get? key value)
  get? := get?

/-- No insertion makes an empty list. -/
theorem empty : InsertionOrdered [] ∅ := by
  refine of_get? (fun _ => Iff.rfl) .nil fun key value => iff_of_false nofun ?_
  rintro ⟨before, after, hsplit, -⟩
  simp at hsplit

/-- **One insertion.** A key that is there stays at its place; a new one came later than all the
others. -/
theorem insert (h : InsertionOrdered pairs p) (key value : String) :
    InsertionOrdered (pairs ++ [(key, value)]) (p.insert key value) := by
  refine of_get? (fun query => ?mem_keys) ?order fun query result => ?get?
  case mem_keys =>
    rw [keys_insert, List.map_append, List.mem_append, ← h.mem_keys]
    split
    · next hkey =>
      refine (or_iff_left_of_imp fun hquery => ?_).symm
      rwa [List.mem_singleton.1 hquery]
    · exact List.mem_append
  case order =>
    -- where a key first came is not changed by what comes after it
    have hplace {query : String} (hquery : query ∈ p.keys) :
        ((pairs ++ [(key, value)]).map Prod.fst).idxOf query =
          (pairs.map Prod.fst).idxOf query := by
      rw [List.map_append, List.idxOf_append_of_mem ((h.mem_keys query).1 hquery)]
    have hkept : p.keys.Pairwise fun a b => ((pairs ++ [(key, value)]).map Prod.fst).idxOf a <
        ((pairs ++ [(key, value)]).map Prod.fst).idxOf b :=
      h.order.imp_of_mem fun ha hb hlt => by rwa [hplace ha, hplace hb]
    rw [keys_insert]
    split
    · exact hkept
    · next hnew =>
      refine List.pairwise_append.2 ⟨hkept, List.pairwise_singleton _ _, fun a ha b hb => ?_⟩
      obtain rfl := List.mem_singleton.1 hb
      rw [h.mem_keys] at hnew
      rw [hplace ha, List.map_append, List.idxOf_append_of_notMem hnew]
      exact Nat.lt_add_right _ (List.idxOf_lt_length_iff.2 ((h.mem_keys a).1 ha))
  case get? =>
    rw [get?_insert, lastUnder_append_singleton_iff]
    split
    · exact Option.some_inj
    · exact h.get? query result

/-- **Any number of insertions.** -/
theorem insertAll (h : InsertionOrdered pairs p) (more : List (String × String)) :
    InsertionOrdered (pairs ++ more) (more.foldl (fun p pair => p.insert pair.1 pair.2) p) := by
  induction more generalizing pairs p with
  | nil => rwa [List.append_nil]
  | cons pair more ih =>
    rw [List.append_cons]
    exact ih (h.insert pair.1 pair.2)

end InsertionOrdered

end Properties

/-! ## Parameters -/

namespace Parameters

variable (p : Properties) (location : Location)

/-- **The value of a key** is that in the property list. -/
theorem get?_ofProperties (key : String) :
    (ofProperties p location).get? key = p.get? key := by
  have hone : ∀ name a b, (name, a) ∈ p.entries → (name, b) ∈ p.entries → a = b :=
    fun name a b ha hb => Option.some.inj
      ((Properties.mem_entries_iff_get?.1 ha).symm.trans (Properties.mem_entries_iff_get?.1 hb))
  refine Option.ext fun value => ?_
  rw [get?, ofProperties, Table.getElem?_ofPairs_eq_some_iff hone]
  exact Properties.mem_entries_iff_get?

/-- **The number of values** is that of the pairs in the property list. -/
theorem size_ofProperties : (ofProperties p location).size = p.size :=
  Table.size_ofPairs_of_nodup p.nodup_keys

end Parameters

/-! ## Main statement -/

namespace Properties

/-- **A property list is a map in the order of insertion**, after any pairs were inserted one after
the other, and so is every one that is read from a text: no key stands twice, the keys stand in the
order in which they first came, and with each stands the value that came last for it, which is also
what is found under it. The parameters made of a property list find the same under every key and are
as many. -/
theorem insertionOrdered_ofList :
    (∀ pairs, InsertionOrdered pairs (ofList pairs)) ∧
    (∀ text resource p, parse text resource = .ok p → ∃ pairs,
      readEntries text resource = .ok pairs ∧ InsertionOrdered pairs p) ∧
    ∀ (p : Properties) (location : Location),
      (∀ key, (Parameters.ofProperties p location).get? key = p.get? key) ∧
        (Parameters.ofProperties p location).size = p.size := by
  have hinserted (pairs : List (String × String)) : InsertionOrdered pairs (ofList pairs) :=
    InsertionOrdered.empty.insertAll pairs
  refine ⟨hinserted, fun text resource p hparse => ?_, fun p location =>
    ⟨Parameters.get?_ofProperties p location, Parameters.size_ofProperties p location⟩⟩
  obtain ⟨pairs, hread, rfl⟩ := map_eq_ok_iff.1 hparse
  exact ⟨pairs, hread, hinserted pairs⟩

/-- A key that comes again gets its new value at its old place. -/
example : (ofList [("a", "1"), ("b", "2"), ("a", "3")]).entries = [("a", "3"), ("b", "2")] := by
  decide

end Properties

end Wiring
