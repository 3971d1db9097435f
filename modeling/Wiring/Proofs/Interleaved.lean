import Mathlib.Data.List.Forall2

/-!
# Lists set into one another

`Interleaved xs ys zs` says that `zs` holds the items of `xs` and those of `ys` and no others, each
list in its own order. It is how something comes between other things that stay as they are: more
resources among those that were there, more notes among those that are given anyway. The relation
goes along with what is done to lists item by item (`filter`, `map`, `flatten`, and
`exists_interleaved` for items that are read). Main statement: where none of the items that come in
between passes a test, those that pass are the same with and without them (`filter_eq`).
-/

namespace Wiring

variable {α β : Type}

/-- Whether the third list is made of the first two, each in its order. -/
inductive Interleaved : List α → List α → List α → Prop
  /-- Nothing is made of nothing. -/
  | nil : Interleaved [] [] []
  /-- The next item is one of the first list. -/
  | left {x : α} {xs ys zs : List α} : Interleaved xs ys zs → Interleaved (x :: xs) ys (x :: zs)
  /-- The next item is one of the second list. -/
  | right {y : α} {xs ys zs : List α} : Interleaved xs ys zs → Interleaved xs (y :: ys) (y :: zs)

namespace Interleaved

variable {xs ys zs : List α}

/-- A list is interleaved from itself and nothing. -/
theorem refl (xs : List α) : Interleaved xs [] xs := by
  induction xs with
  | nil => exact .nil
  | cons x xs ih => exact .left ih

/-- A list is interleaved from nothing and itself. -/
theorem nil_left (ys : List α) : Interleaved [] ys ys := by
  induction ys with
  | nil => exact .nil
  | cons y ys ih => exact .right ih

/-- Interleaved lists one after the other are interleaved. -/
theorem append {xs' ys' zs' : List α} (h : Interleaved xs ys zs) (h' : Interleaved xs' ys' zs') :
    Interleaved (xs ++ xs') (ys ++ ys') (zs ++ zs') := by
  induction h with
  | nil => exact h'
  | left _ ih => exact .left ih
  | right _ ih => exact .right ih

/-- Interleaved lists stay so if each item is mapped. -/
theorem map (f : α → β) (h : Interleaved xs ys zs) :
    Interleaved (xs.map f) (ys.map f) (zs.map f) := by
  induction h with
  | nil => exact .nil
  | left _ ih => exact .left ih
  | right _ ih => exact .right ih

/-- Interleaved lists stay so if the same items are kept in all three. -/
theorem filter (p : α → Bool) (h : Interleaved xs ys zs) :
    Interleaved (xs.filter p) (ys.filter p) (zs.filter p) := by
  induction h with
  | nil => exact .nil
  | @left x _ _ _ _ ih =>
    rw [List.filter_cons, List.filter_cons]
    split
    · exact .left ih
    · exact ih
  | @right y _ _ _ _ ih =>
    rw [List.filter_cons, List.filter_cons]
    split
    · exact .right ih
    · exact ih

/-- Lists of lists that are interleaved are so when they are joined. -/
theorem flatten {xss yss zss : List (List α)} (h : Interleaved xss yss zss) :
    Interleaved xss.flatten yss.flatten zss.flatten := by
  induction h with
  | nil => exact .nil
  | @left xs _ _ _ _ ih =>
    rw [List.flatten_cons, List.flatten_cons]
    exact (refl xs).append ih
  | @right ys _ _ _ _ ih =>
    rw [List.flatten_cons, List.flatten_cons]
    exact (nil_left ys).append ih

/-- **What passes a test** is the same with and without items in between of which none passes. -/
theorem filter_eq {p : α → Bool} (h : Interleaved xs ys zs) (hys : ∀ y ∈ ys, p y = false) :
    zs.filter p = xs.filter p := by
  induction h with
  | nil => rfl
  | left _ ih => rw [List.filter_cons, List.filter_cons, ih hys]
  | right _ ih =>
    have hy := hys _ List.mem_cons_self
    rw [List.filter_cons, hy, ih fun y hmem => hys y (List.mem_cons_of_mem _ hmem)]
    rfl

/-- **What is read of the items** is set into one another as the items are. -/
theorem exists_interleaved {R : α → β → Prop} (hR : Relator.RightUnique R) {as cs : List β}
    (h : Interleaved xs ys zs) (hxs : List.Forall₂ R xs as) (hzs : List.Forall₂ R zs cs) :
    ∃ bs, List.Forall₂ R ys bs ∧ Interleaved as bs cs := by
  induction h generalizing as cs with
  | nil =>
    cases hxs
    cases hzs
    exact ⟨[], .nil, .nil⟩
  | left _ ih =>
    cases hxs with
    | cons hx hxs =>
      cases hzs with
      | cons hz hzs =>
        obtain ⟨bs, hbs, hinter⟩ := ih hxs hzs
        obtain rfl := hR hx hz
        exact ⟨bs, hbs, .left hinter⟩
  | right _ ih =>
    cases hzs with
    | cons hz hzs =>
      obtain ⟨bs, hbs, hinter⟩ := ih hxs hzs
      exact ⟨_ :: bs, .cons hz hbs, .right hinter⟩

end Interleaved

end Wiring
