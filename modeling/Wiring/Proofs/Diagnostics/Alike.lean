import Wiring.Diagnostics.Delivery
import Wiring.Proofs.Diagnostics.Notes

/-!
# Diagnostics · Work that looks alike at a verbosity

Two pieces of work that cannot be told apart by what arrives of them. `AlikeAt v first second` says
that they come to the same and that the same events are put on record at a verbosity; what they do
besides is seen at other verbosities only. It is composed as the work is (`AlikeAt.bind`,
`AlikeAt.foldlM`), down to parts of which nothing is put on record at all (`HiddenAt`). Main
statement: a handle of that verbosity delivers the same of both, whatever its sink
(`AlikeAt.deliver_eq`).
-/

namespace Wiring

/-- Whether an event is put on record at a verbosity. -/
def Event.visibleAt (v : Verbosity) : Event → Bool
  | said note => v.admits note
  | found _ => true

namespace Report

variable {α β σ : Type} {v : Verbosity}

/-! ## Hidden work -/

/-- Whether work succeeds and nothing of it is put on record at a verbosity. -/
structure HiddenAt (v : Verbosity) (work : Report Unit) : Prop where
  /-- It succeeds. -/
  outcome_eq : work.outcome = .ok ()
  /-- Nothing is put on record. -/
  invisible : work.events.filter (Event.visibleAt v) = []

/-- Nothing is put on record of work that does nothing. -/
theorem hiddenAt_pure : HiddenAt v (Pure.pure ()) :=
  ⟨rfl, rfl⟩

/-- What a verbosity does not admit is not put on record. -/
theorem hiddenAt_say {severity : Severity} {text : String}
    (h : v.admits ⟨severity, text, false⟩ = false) : HiddenAt v (say severity text) :=
  ⟨rfl, List.filter_cons_of_neg (by simpa [Event.visibleAt] using h)⟩

/-- A summary that a verbosity does not admit is not put on record. -/
theorem hiddenAt_sumUp {text : String} (h : v.admits ⟨.info, text, true⟩ = false) :
    HiddenAt v (sumUp text) :=
  ⟨rfl, List.filter_cons_of_neg (by simpa [Event.visibleAt] using h)⟩

/-- Of two parts nothing is put on record if nothing is of either. -/
theorem HiddenAt.bind {first second : Report Unit} (h : HiddenAt v first)
    (h' : HiddenAt v second) : HiddenAt v (first >>= fun _ => second) := by
  refine ⟨?_, ?_⟩
  · rw [outcome_bind_eq, h.outcome_eq]
    exact h'.outcome_eq
  · rw [events_bind_of_ok h.outcome_eq, List.filter_append, h.invisible, h'.invisible]
    rfl

/-- Nothing is put on record of all items if nothing is of each. -/
theorem hiddenAt_forM {f : α → Report Unit} (h : ∀ x, HiddenAt v (f x)) (xs : List α) :
    HiddenAt v (xs.forM f) := by
  induction xs with
  | nil => exact hiddenAt_pure
  | cons x xs ih => exact (h x).bind ih

/-! ## Work that looks alike -/

/-- Whether two pieces of work come to the same and look alike at a verbosity. -/
structure AlikeAt (v : Verbosity) (first second : Report α) : Prop where
  /-- The outcomes are equal. -/
  outcome_eq : second.outcome = first.outcome
  /-- The same events are put on record. -/
  visible_eq : second.events.filter (Event.visibleAt v) = first.events.filter (Event.visibleAt v)

namespace AlikeAt

/-- Work is like itself. -/
theorem refl (report : Report α) : AlikeAt v report report :=
  ⟨rfl, rfl⟩

/-- Work that is like work that is like a third is like the third. -/
theorem trans {first second third : Report α} (h : AlikeAt v first second)
    (h' : AlikeAt v second third) : AlikeAt v first third :=
  ⟨h'.outcome_eq.trans h.outcome_eq, h'.visible_eq.trans h.visible_eq⟩

/-- Two pieces of work of which nothing is put on record are alike. -/
theorem of_hidden {first second : Report Unit} (h : HiddenAt v first) (h' : HiddenAt v second) :
    AlikeAt v first second :=
  ⟨h'.outcome_eq.trans h.outcome_eq.symm, h'.invisible.trans h.invisible.symm⟩

/-- **One piece of work after another** looks alike if both parts do. -/
theorem bind {first second : Report α} {next next' : α → Report β} (h : AlikeAt v first second)
    (hnext : ∀ a, AlikeAt v (next a) (next' a)) :
    AlikeAt v (first >>= next) (second >>= next') := by
  refine ⟨outcome_bind_congr h.outcome_eq fun a _ => (hnext a).outcome_eq, ?_⟩
  have hsame := h.outcome_eq
  cases hfirst : first.outcome with
  | error e =>
    rw [hfirst] at hsame
    rw [events_bind_of_error hfirst, events_bind_of_error hsame]
    exact h.visible_eq
  | ok a =>
    rw [hfirst] at hsame
    rw [events_bind_of_ok hfirst, events_bind_of_ok hsame, List.filter_append,
      List.filter_append, h.visible_eq, (hnext a).visible_eq]

/-- Work that goes on alike looks alike if its start does. -/
theorem bind_left {first second : Report α} (h : AlikeAt v first second) (next : α → Report β) :
    AlikeAt v (first >>= next) (second >>= next) :=
  h.bind fun a => refl (next a)

/-- Work that starts alike looks alike if the rest does. -/
theorem bind_right (start : Report α) {next next' : α → Report β}
    (h : ∀ a, AlikeAt v (next a) (next' a)) : AlikeAt v (start >>= next) (start >>= next') :=
  (refl start).bind h

/-- Hidden work may stand in front. -/
theorem hidden_bind {first : Report Unit} (h : HiddenAt v first) (next : Report α) :
    AlikeAt v (first >>= fun _ => next) next :=
  (of_hidden h hiddenAt_pure).bind_left fun _ => next

/-- Hidden work may stand behind. -/
theorem bind_hidden (first : Report Unit) {last : Report Unit} (h : HiddenAt v last) :
    AlikeAt v (first >>= fun _ => last) first := by
  have hlast := bind_right first fun _ => of_hidden h hiddenAt_pure
  rwa [bind_pure_unit] at hlast

/-- **Work over a list** looks alike if each item's does. -/
theorem foldlM {f g : σ → α → Report σ} (h : ∀ s x, AlikeAt v (f s x) (g s x)) (s : σ)
    (xs : List α) : AlikeAt v (xs.foldlM f s) (xs.foldlM g s) := by
  induction xs generalizing s with
  | nil => exact refl _
  | cons x xs ih =>
    rw [List.foldlM_cons, List.foldlM_cons]
    exact (h s x).bind ih

/-- What is gathered from the events put on record is the same. -/
theorem filterMap_eq {γ : Type} {first second : Report α} (h : AlikeAt v first second)
    {f : Event → Option γ} (hf : ∀ event : Event, event.visibleAt v = false → f event = none) :
    second.events.filterMap f = first.events.filterMap f := by
  have hvisible (events : List Event) :
      (events.filter (Event.visibleAt v)).filterMap f = events.filterMap f := by
    rw [List.filterMap_filter]
    refine List.filterMap_congr fun event _ => ?_
    split
    case isTrue => rfl
    case isFalse hhidden => exact (hf event (Bool.eq_false_iff.2 hhidden)).symm
  rw [← hvisible, h.visible_eq, hvisible]

/-- The notes shown are the same. -/
theorem shown_eq {first second : Report α} (h : AlikeAt v first second) :
    second.shown v = first.shown v := by
  have hf : ∀ event : Event, event.visibleAt v = false → event.note?.filter v.admits = none := by
    intro event hhidden
    cases event with
    | said note => exact Option.filter_some_neg (by simpa [Event.visibleAt] using hhidden)
    | found location => rfl
  rw [shown, shown, notes, notes, List.filter_filterMap, List.filter_filterMap]
  exact h.filterMap_eq hf

/-- **What arrives** by a handle of the verbosity is the same. -/
theorem deliver_eq {d : Diagnostics} {first second : Report α}
    (h : AlikeAt d.verbosity first second) : d.deliver second.events = d.deliver first.events := by
  refine h.filterMap_eq fun event hhidden => ?_
  cases event with
  | said note => exact if_neg (Bool.eq_false_iff.1 hhidden)
  | found location => cases hhidden

end AlikeAt

end Report

end Wiring
