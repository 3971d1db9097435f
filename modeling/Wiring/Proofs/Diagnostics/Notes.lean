import Wiring.Enumerator
import Wiring.Proofs.Outcome

/-!
# Diagnostics · What is said in composed reports

The notes of composed work are those of the first part and, where it succeeds, those of the second.
`SaysOnly` says of which kind all notes of a report are; it is composed as the work is, whether this
succeeds or fails: one part after the other (`SaysOnly.bind`) or over a list (`saysOnly_mapM`,
`saysOnly_foldlM`, `saysOnly_forM`).
-/

namespace Wiring.Report

variable {α β σ : Type}

/-! ## Notes -/

/-- After work that succeeds, the notes of what follows are added. -/
theorem notes_bind_of_ok {first : Report α} {a : α} (h : first.outcome = .ok a)
    (next : α → Report β) : (first >>= next).notes = first.notes ++ (next a).notes := by
  rw [notes, events_bind_of_ok h, List.filterMap_append]
  rfl

/-- Nothing happens after an error. -/
theorem events_bind_of_error {first : Report α} {e : Error} (h : first.outcome = .error e)
    (next : α → Report β) : (first >>= next).events = first.events := by
  simp only [Bind.bind, bind, h]

/-- Nothing is said after an error. -/
theorem notes_bind_of_error {first : Report α} {e : Error} (h : first.outcome = .error e)
    (next : α → Report β) : (first >>= next).notes = first.notes := by
  rw [notes, events_bind_of_error h]
  rfl

/-- Findings are no notes. -/
theorem notes_enumerate (view : View) (path : String) (failure : String → Error) :
    (view.enumerate path failure).notes = [] := by
  rw [View.enumerate]
  cases view.find path with
  | error cause => rfl
  | ok resources =>
    rw [notes, List.filterMap_eq_nil_iff]
    intro event hevent
    dsimp only at hevent
    split at hevent
    · obtain ⟨resource, -, rfl⟩ := List.mem_map.1 hevent
      rfl
    · cases hevent

/-! ## Notes that are shown -/

/-- Warnings and progress are shown from the middle verbosity on, unless they only sum up. -/
theorem filter_admits_eq_self {notes : List Note}
    (h : ∀ note ∈ notes, note.severity.threshold = .info ∧ note.brief = false) {v : Verbosity}
    (hv : v ≠ .error) : notes.filter v.admits = notes := by
  rw [List.filter_eq_self]
  intro note hnote
  obtain ⟨hthreshold, hbrief⟩ := h note hnote
  rw [Verbosity.admits, hthreshold, hbrief]
  cases v with
  | error => exact absurd rfl hv
  | info => rfl
  | debug => rfl

/-- Nothing but failures is shown at the lowest verbosity. -/
theorem filter_admits_error {notes : List Note} (h : ∀ note ∈ notes, note.severity ≠ .error) :
    notes.filter Verbosity.error.admits = [] := by
  rw [List.filter_eq_nil_iff]
  intro note hnote
  have hseverity := h note hnote
  rw [Verbosity.admits]
  cases hcase : note.severity with
  | error => exact absurd hcase hseverity
  | warning => exact Bool.false_ne_true
  | info => exact Bool.false_ne_true
  | debug => exact Bool.false_ne_true

/-! ## Notes of one kind -/

/-- Whether only notes of one kind are said. -/
def SaysOnly (P : Note → Prop) (report : Report α) : Prop :=
  ∀ note ∈ report.notes, P note

variable {P : Note → Prop}

/-- Work that says nothing says nothing of another kind. -/
theorem saysOnly_of_notes_eq_nil {report : Report α} (h : report.notes = []) :
    report.SaysOnly P := by
  intro note hnote
  rw [h] at hnote
  cases hnote

/-- Work that does nothing says nothing. -/
theorem saysOnly_pure (a : α) : (Pure.pure a : Report α).SaysOnly P :=
  saysOnly_of_notes_eq_nil rfl

/-- A failure by itself says nothing. -/
theorem saysOnly_fail (e : Error) : (fail e : Report α).SaysOnly P :=
  saysOnly_of_notes_eq_nil rfl

/-- A result that is taken over says nothing. -/
theorem saysOnly_ofSyntax (result : Except SyntaxError α) : (ofSyntax result).SaysOnly P :=
  saysOnly_of_notes_eq_nil rfl

/-- One thing is said, which is of the kind. -/
theorem saysOnly_say {severity : Severity} {text : String} (h : P ⟨severity, text, false⟩) :
    (say severity text).SaysOnly P := by
  intro note hnote
  obtain rfl := List.mem_singleton.1 hnote
  exact h

/-- A summary is said, which is of the kind. -/
theorem saysOnly_sumUp {text : String} (h : P ⟨.info, text, true⟩) :
    (sumUp text).SaysOnly P := by
  intro note hnote
  obtain rfl := List.mem_singleton.1 hnote
  exact h

/-- Work of two parts says only what is of the kind if both parts do. -/
theorem SaysOnly.bind {first : Report α} {next : α → Report β} (h : first.SaysOnly P)
    (hnext : ∀ a, (next a).SaysOnly P) : (first >>= next).SaysOnly P := by
  intro note hnote
  cases hfirst : first.outcome with
  | error e =>
    rw [notes_bind_of_error hfirst] at hnote
    exact h note hnote
  | ok a =>
    rw [notes_bind_of_ok hfirst] at hnote
    rcases List.mem_append.1 hnote with hnote | hnote
    · exact h note hnote
    · exact hnext a note hnote

/-- Putting a result together says nothing more. -/
theorem SaysOnly.bind_pure {first : Report α} (h : first.SaysOnly P) (f : α → β) :
    (first >>= fun a => Pure.pure (f a)).SaysOnly P :=
  h.bind fun a => saysOnly_pure (f a)

/-- A fold says only what is of the kind if each of its steps does. -/
theorem saysOnly_foldlM {f : σ → α → Report σ} (h : ∀ s x, (f s x).SaysOnly P) (s : σ)
    (xs : List α) : (xs.foldlM f s).SaysOnly P := by
  induction xs generalizing s with
  | nil => exact saysOnly_pure s
  | cons x xs ih =>
    rw [List.foldlM_cons]
    exact (h s x).bind ih

/-- Work over a list says only what is of the kind if the work on each item does. -/
theorem saysOnly_mapM {f : α → Report β} (h : ∀ x, (f x).SaysOnly P) (xs : List α) :
    (xs.mapM f).SaysOnly P := by
  induction xs with
  | nil => exact saysOnly_pure []
  | cons x xs ih =>
    rw [List.mapM_cons]
    exact (h x).bind fun y => ih.bind_pure _

/-- What is said of all items is of the kind if what is said of each is. -/
theorem saysOnly_forM {f : α → Report Unit} (h : ∀ x, (f x).SaysOnly P) (xs : List α) :
    (xs.forM f).SaysOnly P := by
  induction xs with
  | nil => exact saysOnly_pure ()
  | cons x xs ih => exact (h x).bind fun _ => ih

end Wiring.Report
