import Mathlib.Data.List.Perm.Basic
import Wiring.Proofs.Diagnostics.Notes

/-!
# Diagnostics · Added warnings

Two pieces of work compared by what they warn of. `Adds extra first second` says that where the
first succeeds, the second succeeds alike and has the same warnings and `extra` besides, in whatever
order. The relation is composed as the work is: one after the other (`Adds.bind`) and over a list
(`Adds.foldlM`). Main statement: what it says of all warnings holds of those shown at the middle and
at the highest verbosity (`Adds.perm_warningsAt`). Nothing is said where the first fails, and notes
of other severities are not compared.
-/

namespace Wiring.Report

variable {α β σ : Type}

/-! ## Warnings -/

/-- The warnings among what was said, in order. -/
def warnings (report : Report α) : List Note :=
  report.notes.filter (·.severity = .warning)

/-- The warnings that are shown at a verbosity, in order. -/
def warningsAt (v : Verbosity) (report : Report α) : List Note :=
  (report.shown v).filter (·.severity = .warning)

/-- The warnings shown at a verbosity are those that it admits. -/
theorem warningsAt_eq_filter (v : Verbosity) (report : Report α) :
    report.warningsAt v = report.warnings.filter v.admits := by
  rw [warningsAt, shown, warnings, List.filter_filter, List.filter_filter]
  exact List.filter_congr fun note _ => Bool.and_comm _ _

/-- After work that succeeds, the warnings of what follows are added. -/
theorem warnings_bind_of_ok {first : Report α} {a : α} (h : first.outcome = .ok a)
    (next : α → Report β) : (first >>= next).warnings = first.warnings ++ (next a).warnings := by
  rw [warnings, notes_bind_of_ok h, List.filter_append]
  rfl

/-! ## Work that adds warnings -/

/-- Whether the second work succeeds as the first does and warns of some things besides. -/
def Adds (extra : List Note) (first second : Report α) : Prop :=
  ∀ a, first.outcome = .ok a →
    second.outcome = .ok a ∧ second.warnings.Perm (first.warnings ++ extra)

/-- No warning is added between work and itself. -/
theorem Adds.refl (report : Report α) : Adds [] report report := by
  intro a ha
  rw [List.append_nil]
  exact ⟨ha, .refl _⟩

/-- Nothing is asked of work beside one that fails. -/
theorem adds_of_error {first : Report α} {e : Error} (h : first.outcome = .error e)
    (extra : List Note) (second : Report α) : Adds extra first second := by
  intro a ha
  cases h.symm.trans ha

/-- A warning in front of work is added to it. -/
theorem adds_warning (text : String) (next : Report α) :
    Adds [⟨.warning, text, false⟩] next (say .warning text >>= fun _ => next) := by
  intro a ha
  refine ⟨ha, ?_⟩
  rw [warnings_bind_of_ok rfl]
  exact List.perm_append_comm

/-- What stands between two parts may stand behind both. -/
theorem perm_append_exchange {γ : Type} (a x b y : List γ) :
    ((a ++ x) ++ (b ++ y)).Perm ((a ++ b) ++ (x ++ y)) := by
  rw [List.append_assoc, List.append_assoc]
  refine .append_left a ?_
  exact List.perm_append_comm_assoc x b y

/-- **One piece of work after another** adds what both add. -/
theorem Adds.bind {extra extra' : List Note} {first second : Report α} {next next' : α → Report β}
    (h : Adds extra first second)
    (hnext : ∀ a, first.outcome = .ok a → Adds extra' (next a) (next' a)) :
    Adds (extra ++ extra') (first >>= next) (second >>= next') := by
  intro b hb
  obtain ⟨a, ha, hb⟩ := outcome_bind_eq_ok_iff.1 hb
  obtain ⟨ha', hwarnings⟩ := h a ha
  obtain ⟨hb', hwarnings'⟩ := hnext a ha b hb
  refine ⟨outcome_bind_eq_ok_iff.2 ⟨a, ha', hb'⟩, ?_⟩
  rw [warnings_bind_of_ok ha, warnings_bind_of_ok ha']
  exact (hwarnings.append hwarnings').trans (perm_append_exchange _ _ _ _)

/-- What is added first is all, if the work goes on alike. -/
theorem Adds.bind_left {extra : List Note} {first second : Report α} (h : Adds extra first second)
    (next : α → Report β) : Adds extra (first >>= next) (second >>= next) := by
  have hbind := h.bind fun a _ => Adds.refl (next a)
  rwa [List.append_nil] at hbind

/-- **Work over a list** adds what each item adds. -/
theorem Adds.foldlM {f g : σ → α → Report σ} {extra : α → List Note} {xs : List α}
    (h : ∀ s, ∀ x ∈ xs, Adds (extra x) (f s x) (g s x)) (s : σ) :
    Adds (xs.flatMap extra) (xs.foldlM f s) (xs.foldlM g s) := by
  induction xs generalizing s with
  | nil => exact .refl _
  | cons x xs ih =>
    rw [List.foldlM_cons, List.foldlM_cons, List.flatMap_cons]
    exact (h s x (by simp)).bind fun s' _ => ih (fun s y hy => h s y (by simp [hy])) s'

/-- Work over a list adds nothing where no item does. -/
theorem Adds.foldlM_of_nil {f g : σ → α → Report σ} (h : ∀ s x, Adds [] (f s x) (g s x)) (s : σ)
    (xs : List α) : Adds [] (xs.foldlM f s) (xs.foldlM g s) := by
  have hnil : (xs.flatMap fun _ => ([] : List Note)) = [] :=
    List.flatMap_eq_nil_iff.2 fun _ _ => rfl
  have hfold := Adds.foldlM (fun s x (_ : x ∈ xs) => h s x) s
  rwa [hnil] at hfold

/-! ## What is shown -/

/-- **The warnings shown** at the middle and at the highest verbosity are the same and those that
were added. -/
theorem Adds.perm_warningsAt {extra : List Note} {first second : Report α}
    (h : Adds extra first second) {a : α} (ha : first.outcome = .ok a)
    (hextra : ∀ note ∈ extra, note.severity = .warning ∧ note.brief = false) {v : Verbosity}
    (hv : v ≠ .error) : (second.warningsAt v).Perm (first.warningsAt v ++ extra) := by
  have hall : extra.filter v.admits = extra := by
    refine filter_admits_eq_self (fun note hnote => ?_) hv
    obtain ⟨hseverity, hbrief⟩ := hextra note hnote
    exact ⟨congrArg Severity.threshold hseverity, hbrief⟩
  have hperm := (h a ha).2.filter v.admits
  rw [List.filter_append, hall] at hperm
  rwa [warningsAt_eq_filter, warningsAt_eq_filter]

end Wiring.Report
