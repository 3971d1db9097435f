import Mathlib.Data.List.Nodup
import Wiring.Upsert

/-!
# Lists of pairs · Keys that stand once

Where every key stands once, a pair is in the list exactly when its value is found under its key
(`lookup_eq_some_iff_mem`). `FieldsOnce` says so of a list, and of its values what is wanted of
them; setting the value of a key keeps it (`FieldsOnce.upsert`).
-/

namespace Wiring

variable {α : Type} {wanted : α → Prop} {fields : List (String × α)} {key : String} {value : α}

/-- Nothing is found under a key exactly if it is not among the keys. -/
theorem lookup_eq_none_iff_not_mem : fields.lookup key = none ↔ key ∉ fields.map Prod.fst := by
  rw [List.lookup_eq_none_iff, List.mem_map]
  grind

/-- What is found under a key is one of the fields. -/
theorem mem_of_lookup_eq_some (h : fields.lookup key = some value) : (key, value) ∈ fields := by
  obtain ⟨before, after, rfl, -⟩ := List.lookup_eq_some_iff.1 h
  simp

/-- Where every key stands once, each field is what is found under its key. -/
theorem lookup_eq_some_iff_mem (hkeys : (fields.map Prod.fst).Nodup) :
    fields.lookup key = some value ↔ (key, value) ∈ fields := by
  constructor
  · exact mem_of_lookup_eq_some
  · intro hmem
    cases hlookup : fields.lookup key with
    | none => exact absurd (List.mem_map_of_mem hmem) (lookup_eq_none_iff_not_mem.1 hlookup)
    | some other =>
      have heq := List.inj_on_of_nodup_map hkeys hmem (mem_of_lookup_eq_some hlookup) rfl
      rw [(Prod.mk.inj heq).2]

/-- After an upsert a field is the new one or was there before. -/
theorem eq_or_mem_of_mem_upsert {field : String × α} (h : field ∈ upsert key value fields) :
    field = (key, value) ∨ field ∈ fields := by
  induction fields with
  | nil => exact .inl (List.mem_singleton.1 h)
  | cons first rest ih =>
    by_cases hfirst : first.1 = key
    · rw [upsert, if_pos hfirst] at h
      exact (List.mem_cons.1 h).imp_right (List.mem_cons_of_mem _)
    · rw [upsert, if_neg hfirst] at h
      rcases List.mem_cons.1 h with rfl | hrest
      · exact .inr List.mem_cons_self
      · exact (ih hrest).imp_right (List.mem_cons_of_mem _)

/-- A key that is not there yet is added at the end. -/
theorem upsert_of_not_mem (h : key ∉ fields.map Prod.fst) :
    upsert key value fields = fields ++ [(key, value)] := by
  induction fields with
  | nil => rfl
  | cons entry entries ih =>
    rw [List.map_cons, List.mem_cons, not_or] at h
    rw [upsert, if_neg (Ne.symm h.1), ih h.2, List.cons_append]

/-- Whether every key stands once, with a value as wanted. -/
structure FieldsOnce (wanted : α → Prop) (fields : List (String × α)) : Prop where
  /-- Every key stands once. -/
  keys : (fields.map Prod.fst).Nodup
  /-- Every value is as wanted. -/
  values : ∀ field ∈ fields, wanted field.2

namespace FieldsOnce

/-- In no fields every key stands once. -/
theorem nil : FieldsOnce wanted [] :=
  ⟨List.nodup_nil, by simp⟩

/-- A field with a new key may be put in front. -/
theorem cons (hkey : key ∉ fields.map Prod.fst) (hvalue : wanted value)
    (h : FieldsOnce wanted fields) : FieldsOnce wanted ((key, value) :: fields) :=
  ⟨List.nodup_cons.2 ⟨hkey, h.keys⟩, List.forall_mem_cons.2 ⟨hvalue, h.values⟩⟩

/-- What is found under a key is as wanted. -/
theorem of_lookup (h : FieldsOnce wanted fields) (hvalue : fields.lookup key = some value) :
    wanted value :=
  h.values (key, value) (mem_of_lookup_eq_some hvalue)

/-- An upsert keeps every key once. -/
theorem upsert (h : FieldsOnce wanted fields) (hvalue : wanted value) :
    FieldsOnce wanted (upsert key value fields) := by
  constructor
  · rw [map_fst_upsert]
    split
    · exact h.keys
    · exact List.nodup_append.2 ⟨h.keys, by simp, by grind⟩
  · intro field hfield
    rcases eq_or_mem_of_mem_upsert hfield with rfl | hfield
    · exact hvalue
    · exact h.values field hfield

end FieldsOnce

end Wiring
