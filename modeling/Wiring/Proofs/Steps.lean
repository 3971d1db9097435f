import Mathlib.Data.List.Forall2

/-!
# Work done item by item

When a list is worked through item by item and each step may fail, the whole succeeds exactly when
every step does. `mapM_eq_ok_iff` says this of a list of results, `foldlM_eq_ok_iff` of a state that
is known after every prefix, and `foldlM_total_eq_ok_iff` of a state that takes in whatever is read.
-/

namespace Wiring

variable {α β δ σ ε ε' : Type}

/-! ## Two steps -/

/-- Two steps succeed exactly when the first does and then the second. -/
theorem bind_eq_ok_iff {first : Except ε α} {next : α → Except ε β} {b : β} :
    first >>= next = .ok b ↔ ∃ a, first = .ok a ∧ next a = .ok b := by
  cases first <;> simp [Bind.bind, Except.bind]

/-- Two steps fail exactly when the first does or, after it, the second. -/
theorem bind_eq_error_iff {first : Except ε α} {next : α → Except ε β} {e : ε} :
    first >>= next = .error e ↔ first = .error e ∨ ∃ a, first = .ok a ∧ next a = .error e := by
  cases first <;> simp [Bind.bind, Except.bind]

/-- A mapped result succeeds with what the result is mapped to. -/
theorem map_eq_ok_iff {g : α → β} {result : Except ε α} {b : β} :
    result.map g = .ok b ↔ ∃ a, result = .ok a ∧ b = g a := by
  cases result <;> simp [Except.map, eq_comm]

/-- A mapped result succeeds exactly when the result does. -/
theorem exists_map_eq_ok_iff {g : α → β} {result : Except ε α} :
    (∃ b, result.map g = .ok b) ↔ ∃ a, result = .ok a := by
  cases result <;> simp [Except.map]

/-- A mapped result fails with the error of the result. -/
theorem map_eq_error_iff {g : α → β} {result : Except ε α} {e : ε} :
    result.map g = .error e ↔ result = .error e := by
  cases result <;> simp [Except.map]

/-- To map the error leaves success as it is. -/
theorem mapError_eq_ok_iff {g : ε → ε'} {result : Except ε α} {a : α} :
    result.mapError g = .ok a ↔ result = .ok a := by
  cases result <;> simp [Except.mapError]

/-- With its error mapped, a result fails with what the error is mapped to. -/
theorem mapError_eq_error_iff {g : ε → ε'} {result : Except ε α} {e : ε'} :
    result.mapError g = .error e ↔ ∃ cause, result = .error cause ∧ e = g cause := by
  cases result <;> simp [Except.mapError, eq_comm]

/-! ## A list of results -/

/-- **All results** are there exactly when each item yields its own. -/
theorem mapM_eq_ok_iff {f : α → Except ε β} {xs : List α} {ys : List β} :
    xs.mapM f = .ok ys ↔ List.Forall₂ (fun x y => f x = .ok y) xs ys := by
  induction xs generalizing ys with
  | nil => simp [Pure.pure, Except.pure, eq_comm]
  | cons x xs ih =>
    rw [List.mapM_cons, bind_eq_ok_iff, List.forall₂_cons_left_iff]
    constructor
    · rintro ⟨y, hy, h⟩
      obtain ⟨ys', hys, h⟩ := bind_eq_ok_iff.1 h
      exact ⟨y, ys', hy, ih.1 hys, by simpa [Pure.pure, Except.pure, eq_comm] using h⟩
    · rintro ⟨y, ys', hy, hys, rfl⟩
      exact ⟨y, hy, bind_eq_ok_iff.2 ⟨ys', ih.2 hys, rfl⟩⟩

/-- Items can be related to a list of results exactly when each is related to some result. -/
theorem exists_forall₂_iff {R : α → β → Prop} {xs : List α} :
    (∃ ys, List.Forall₂ R xs ys) ↔ ∀ x ∈ xs, ∃ y, R x y := by
  induction xs with
  | nil => simp
  | cons x xs ih =>
    rw [List.forall_mem_cons, ← ih]
    constructor
    · rintro ⟨_, hcons⟩
      obtain ⟨y, ys, hy, hys, rfl⟩ := List.forall₂_cons_left_iff.1 hcons
      exact ⟨⟨y, hy⟩, ⟨ys, hys⟩⟩
    · rintro ⟨⟨y, hy⟩, ⟨ys, hys⟩⟩
      exact ⟨y :: ys, .cons hy hys⟩

/-- Each result is related to one of the items. -/
theorem exists_of_mem_forall₂ {R : α → β → Prop} {xs : List α} {ys : List β}
    (h : List.Forall₂ R xs ys) {y : β} (hy : y ∈ ys) : ∃ x ∈ xs, R x y := by
  induction h with
  | nil => cases hy
  | @cons x _ _ _ hx _ ih =>
    rcases List.mem_cons.1 hy with rfl | hys
    · exact ⟨x, List.mem_cons_self, hx⟩
    · obtain ⟨x', hx', hy'⟩ := ih hys
      exact ⟨x', List.mem_cons_of_mem x hx', hy'⟩

/-- The results are what the items yield. -/
theorem mem_iff_of_forall₂ {f : α → Except ε β} {xs : List α} {ys : List β}
    (h : List.Forall₂ (fun x y => f x = .ok y) xs ys) {y : β} :
    y ∈ ys ↔ ∃ x ∈ xs, f x = .ok y := by
  constructor
  · exact exists_of_mem_forall₂ h
  · rintro ⟨x, hx, hy⟩
    obtain ⟨y', hy', hok⟩ := exists_of_mem_forall₂ h.flip hx
    rwa [Except.ok.inj (hy.symm.trans hok)]

/-- Results that are turned into others are there exactly when the first ones are. -/
theorem forall₂_map_eq_ok_iff {f : α → Except ε β} {g : β → δ} {xs : List α} {zs : List δ} :
    List.Forall₂ (fun x z => (f x).map g = .ok z) xs zs ↔
      ∃ ys, List.Forall₂ (fun x y => f x = .ok y) xs ys ∧ zs = ys.map g := by
  constructor
  · intro h
    induction h with
    | nil => exact ⟨[], .nil, rfl⟩
    | @cons x z _ _ hz _ ih =>
      obtain ⟨ys, hys, rfl⟩ := ih
      obtain ⟨y, hx, rfl⟩ := map_eq_ok_iff.1 hz
      exact ⟨y :: ys, .cons hx hys, rfl⟩
  · rintro ⟨ys, h, rfl⟩
    rw [List.forall₂_map_right_iff]
    exact h.imp fun x y hx => map_eq_ok_iff.2 ⟨y, hx, rfl⟩

/-- To map the error of all steps is to map that of each. -/
theorem mapM_mapError (g : ε → ε') (f : α → Except ε β) (xs : List α) :
    (xs.mapM f).mapError g = xs.mapM fun x => (f x).mapError g := by
  induction xs with
  | nil => rfl
  | cons x xs ih =>
    rw [List.mapM_cons, List.mapM_cons, ← ih]
    cases f x with
    | error e => rfl
    | ok y => cases xs.mapM f <;> rfl

/-- **A list of results fails** with the error of the first item that yields none. -/
theorem mapM_eq_error_iff {f : α → Except ε β} {xs : List α} {e : ε} :
    xs.mapM f = .error e ↔ ∃ before x after, xs = before ++ x :: after ∧
      (∀ y ∈ before, ∃ b, f y = .ok b) ∧ f x = .error e := by
  induction xs with
  | nil => simp [Pure.pure, Except.pure]
  | cons x xs ih =>
    rw [List.mapM_cons, bind_eq_error_iff]
    constructor
    · rintro (hx | ⟨b, hb, hrest⟩)
      · exact ⟨[], x, xs, rfl, by simp, hx⟩
      · rcases bind_eq_error_iff.1 hrest with hxs | ⟨bs, -, hdone⟩
        · obtain ⟨before, y, after, rfl, hbefore, hy⟩ := ih.1 hxs
          exact ⟨x :: before, y, after, rfl, List.forall_mem_cons.2 ⟨⟨b, hb⟩, hbefore⟩, hy⟩
        · cases hdone
    · rintro ⟨before, y, after, hsplit, hbefore, hy⟩
      cases before with
      | nil =>
        obtain ⟨rfl, -⟩ := List.cons.inj hsplit
        exact .inl hy
      | cons z before =>
        obtain ⟨rfl, rfl⟩ := List.cons.inj hsplit
        obtain ⟨⟨b, hb⟩, hrest⟩ := List.forall_mem_cons.1 hbefore
        refine .inr ⟨b, hb, bind_eq_error_iff.2 (.inl ?_)⟩
        exact ih.2 ⟨before, y, after, rfl, hrest, hy⟩

/-- A list of results that fails does so at one of its items. -/
theorem exists_of_mapM_eq_error {f : α → Except ε β} {xs : List α} {e : ε}
    (h : xs.mapM f = .error e) : ∃ x ∈ xs, f x = .error e := by
  obtain ⟨before, x, after, rfl, -, hx⟩ := mapM_eq_error_iff.1 h
  exact ⟨x, by simp, hx⟩

/-- A list of results fails exactly when one of its items yields none. -/
theorem exists_mapM_eq_error_iff {f : α → Except ε β} {xs : List α} :
    (∃ e, xs.mapM f = .error e) ↔ ∃ x ∈ xs, ∃ e, f x = .error e := by
  constructor
  · rintro ⟨e, h⟩
    obtain ⟨x, hx, he⟩ := exists_of_mapM_eq_error h
    exact ⟨x, hx, e, he⟩
  · rintro ⟨x, hx, e, he⟩
    cases hall : xs.mapM f with
    | error e' => exact ⟨e', rfl⟩
    | ok ys =>
      obtain ⟨y, -, hy⟩ := exists_of_mem_forall₂ (mapM_eq_ok_iff.1 hall).flip hx
      cases he.symm.trans hy

/-- **A list of results that fails** does so alike where items are left out beforehand, as long as
those that fail in that way are kept. -/
theorem mapM_filter_eq_error {f : α → Except ε β} {p : α → Bool} {xs : List α} {e : ε}
    (hkept : ∀ x ∈ xs, f x = .error e → p x = true) (h : xs.mapM f = .error e) :
    (xs.filter p).mapM f = .error e := by
  induction xs with
  | nil => cases h
  | cons x xs ih =>
    rw [List.mapM_cons, bind_eq_error_iff] at h
    rcases h with hx | ⟨y, hy, hrest⟩
    · rw [List.filter_cons_of_pos (hkept x List.mem_cons_self hx), List.mapM_cons, hx]
      rfl
    · have hxs : xs.mapM f = .error e := by
        rcases bind_eq_error_iff.1 hrest with hxs | ⟨ys, -, hdone⟩
        · exact hxs
        · cases hdone
      have htail := ih (fun z hz => hkept z (List.mem_cons_of_mem x hz)) hxs
      by_cases hp : p x = true
      · rw [List.filter_cons_of_pos hp, List.mapM_cons, hy, htail]
        rfl
      · rw [List.filter_cons_of_neg hp]
        exact htail

/-- Items that yield no result of their own can be left out beforehand. -/
theorem map_flatten_mapM_filter (p : α → Prop) [DecidablePred p] (f : α → Except ε (List β))
    (xs : List α) :
    (xs.mapM fun x => if p x then f x else .ok []).map List.flatten =
      ((xs.filter p).mapM f).map List.flatten := by
  induction xs with
  | nil => rfl
  | cons x xs ih =>
    rw [List.mapM_cons]
    by_cases h : p x
    · rw [List.filter_cons_of_pos (by simpa using h), List.mapM_cons, if_pos h]
      cases f x with
      | error e => rfl
      | ok y =>
        cases hall : xs.mapM fun x => if p x then f x else .ok [] <;>
          cases hkept : (xs.filter p).mapM f <;>
          simp_all [Bind.bind, Except.bind, Pure.pure, Except.pure, Except.map]
    · rw [List.filter_cons_of_neg (by simpa using h), if_neg h, ← ih]
      cases xs.mapM fun x => if p x then f x else .ok [] <;> rfl

/-! ## A growing state -/

/-- **A state built item by item.** Each item is read as a `δ` and added to a state that is a
function of what was read before (`state`); adding succeeds where the new one fits to those before.
Then the whole succeeds exactly when every item can be read and each fits to those before it, and
the result is the state of all that was read. -/
theorem foldlM_eq_ok_iff {read : α → Except ε δ} {add : σ → δ → Except ε σ}
    {state : List δ → σ} {Fits : List δ → δ → Prop}
    (hadd : ∀ before d s, add (state before) d = .ok s ↔ Fits before d ∧ s = state (before ++ [d]))
    {xs : List α} {s : σ} :
    xs.foldlM (fun s x => read x >>= add s) (state []) = .ok s ↔
      ∃ ds, List.Forall₂ (fun x d => read x = .ok d) xs ds ∧
        (∀ before d after, ds = before ++ d :: after → Fits before d) ∧ s = state ds := by
  -- the induction runs over the items left, behind any prefix already added
  have key : ∀ done : List δ, xs.foldlM (fun s x => read x >>= add s) (state done) = .ok s ↔
      ∃ ds, List.Forall₂ (fun x d => read x = .ok d) xs ds ∧
        (∀ before d after, ds = before ++ d :: after → Fits (done ++ before) d) ∧
        s = state (done ++ ds) := by
    induction xs with
    | nil => simp [Pure.pure, Except.pure, eq_comm]
    | cons x xs ih =>
      intro done
      rw [List.foldlM_cons, bind_eq_ok_iff]
      constructor
      · rintro ⟨s₁, h₁, hrest⟩
        obtain ⟨d, hd, h₁⟩ := bind_eq_ok_iff.1 h₁
        obtain ⟨hfits, rfl⟩ := (hadd _ _ _).1 h₁
        obtain ⟨ds, hds, hall, rfl⟩ := (ih _).1 hrest
        refine ⟨d :: ds, .cons hd hds, ?_, by simp⟩
        intro before d' after hsplit
        cases before with
        | nil =>
          obtain ⟨rfl, -⟩ := List.cons.inj hsplit
          simpa using hfits
        | cons b before =>
          obtain ⟨rfl, rfl⟩ := List.cons.inj hsplit
          simpa using hall before d' after rfl
      · rintro ⟨_, hcons, hall, rfl⟩
        obtain ⟨d, ds, hd, hds, rfl⟩ := List.forall₂_cons_left_iff.1 hcons
        refine ⟨state (done ++ [d]), bind_eq_ok_iff.2 ⟨d, hd, (hadd _ _ _).2 ⟨?_, rfl⟩⟩, ?_⟩
        · simpa using hall [] d ds rfl
        · refine (ih _).2 ⟨ds, hds, ?_, by simp⟩
          intro before d' after hsplit
          simpa using hall (d :: before) d' after (by simp [hsplit])
  simpa using key []

/-- **A state that refuses nothing.** Then only the items have to be read. -/
theorem foldlM_total_eq_ok_iff {read : α → Except ε δ} {add : σ → δ → σ} {start s : σ}
    {xs : List α} :
    xs.foldlM (fun s x => read x >>= fun d => .ok (add s d)) start = .ok s ↔
      ∃ ds, List.Forall₂ (fun x d => read x = .ok d) xs ds ∧ s = ds.foldl add start := by
  have hadd (before : List δ) (d : δ) (s : σ) :
      (Except.ok (add (before.foldl add start) d) : Except ε σ) = .ok s ↔
        True ∧ s = (before ++ [d]).foldl add start := by
    rw [List.foldl_append, List.foldl_cons, List.foldl_nil, Except.ok.injEq, true_and, eq_comm]
  have hfold := @foldlM_eq_ok_iff α δ σ ε read (fun s d => .ok (add s d))
    (fun ds => ds.foldl add start) (fun _ _ => True) hadd xs s
  simpa only [List.foldl_nil, implies_true, true_and] using hfold

/-- **A state that refuses nothing, as an equation**: all items are read and then taken in. -/
theorem foldlM_map_eq_map_mapM (read : α → Except ε δ) (add : σ → δ → σ) (start : σ)
    (xs : List α) :
    xs.foldlM (fun s x => (read x).map (add s)) start =
      (xs.mapM read).map fun ds => ds.foldl add start := by
  induction xs generalizing start with
  | nil => rfl
  | cons x xs ih =>
    rw [List.foldlM_cons, List.mapM_cons]
    cases read x with
    | error e => rfl
    | ok d =>
      show xs.foldlM (fun s x => (read x).map (add s)) (add start d) = _
      rw [ih]
      cases xs.mapM read <;> rfl

/-! ## Folds that fail -/

/-- **A fold fails** exactly where the items up to some point can be worked through and the next one
fails. -/
theorem foldlM_eq_error_iff {f : σ → α → Except ε σ} {s : σ} {xs : List α} {e : ε} :
    xs.foldlM f s = .error e ↔ ∃ before x after s', xs = before ++ x :: after ∧
      before.foldlM f s = .ok s' ∧ f s' x = .error e := by
  constructor
  · intro h
    induction xs generalizing s with
    | nil => cases h
    | cons x xs ih =>
      rw [List.foldlM_cons, bind_eq_error_iff] at h
      rcases h with hx | ⟨s₁, hx, hrest⟩
      · exact ⟨[], x, xs, s, rfl, rfl, hx⟩
      · obtain ⟨before, y, after, s', rfl, hbefore, hy⟩ := ih hrest
        refine ⟨x :: before, y, after, s', rfl, ?_, hy⟩
        rw [List.foldlM_cons, hx]
        exact hbefore
  · rintro ⟨before, x, after, s', rfl, hbefore, hx⟩
    rw [List.foldlM_append, hbefore]
    show (x :: after).foldlM f s' = .error e
    rw [List.foldlM_cons, hx]
    rfl

/-- A fold that fails does so at one of its items. -/
theorem exists_of_foldlM_eq_error {f : σ → α → Except ε σ} {s : σ} {xs : List α} {e : ε}
    (h : xs.foldlM f s = .error e) : ∃ s', ∃ x ∈ xs, f s' x = .error e := by
  obtain ⟨before, x, after, s', rfl, -, hx⟩ := foldlM_eq_error_iff.1 h
  exact ⟨s', x, by simp, hx⟩

/-- **A fold that fails** does so alike where items are left out, as long as the item that fails is
kept and fails just so behind the kept ones. -/
theorem foldlM_filter_eq_error {f : σ → α → Except ε σ} {p : α → Bool} {s : σ} {xs : List α} {e : ε}
    (hstep : ∀ (before : List α) x s', before.foldlM f s = .ok s' → f s' x = .error e →
      p x = true ∧ ∃ s'', (before.filter p).foldlM f s = .ok s'' ∧ f s'' x = .error e)
    (h : xs.foldlM f s = .error e) : (xs.filter p).foldlM f s = .error e := by
  obtain ⟨before, x, after, s', rfl, hbefore, hx⟩ := foldlM_eq_error_iff.1 h
  obtain ⟨hkept, s'', hfiltered, hfail⟩ := hstep before x s' hbefore hx
  refine foldlM_eq_error_iff.2 ⟨before.filter p, x, after.filter p, s'', ?_, hfiltered, hfail⟩
  rw [List.filter_append, List.filter_cons_of_pos hkept]

end Wiring
