import Wiring.Diagnostics.Report
import Wiring.Proofs.Steps

/-!
# Diagnostics · Outcomes of composed reports

The outcome of a report does not depend on what is said on the way: it is the composition of the
outcomes of the parts, whether these stand one after the other (`outcome_bind_eq`) or are repeated
over a list (`outcome_mapM`, `outcome_foldlM`). With these laws a statement about outcomes is one
about plain results, and what is said drops out of it. `FailsOnlyWith` says which errors can end a
report; it is composed in the same way.
-/

namespace Wiring.Report

variable {α β σ : Type}

/-! ## Single steps -/

/-- A failure comes to its error. -/
@[simp] theorem outcome_fail (e : Error) : (fail e : Report α).outcome = .error e := rfl

/-- Saying something never fails. -/
@[simp] theorem outcome_say (severity : Severity) (text : String) :
    (say severity text).outcome = .ok () := rfl

/-- A result that is taken over fails with a malformed text. -/
@[simp] theorem outcome_ofSyntax (result : Except SyntaxError α) :
    (ofSyntax result).outcome = result.mapError .malformed := rfl

/-! ## Composition -/

/-- Work of two parts comes to what the second part makes of the result of the first. -/
theorem outcome_bind_eq (first : Report α) (next : α → Report β) :
    (first >>= next).outcome = first.outcome >>= fun a => (next a).outcome :=
  outcome_bind first next

/-- What is said first does not matter for the outcome. -/
@[simp] theorem outcome_say_bind (severity : Severity) (text : String) (next : Unit → Report β) :
    (say severity text >>= next).outcome = (next ()).outcome := rfl

/-- Work of two parts succeeds exactly when the first part does and then the second. -/
theorem outcome_bind_eq_ok_iff {first : Report α} {next : α → Report β} {b : β} :
    (first >>= next).outcome = .ok b ↔
      ∃ a, first.outcome = .ok a ∧ (next a).outcome = .ok b := by
  rw [outcome_bind_eq, bind_eq_ok_iff]

/-- Work of two parts fails exactly when the first part does or, after it, the second. -/
theorem outcome_bind_eq_error_iff {first : Report α} {next : α → Report β} {e : Error} :
    (first >>= next).outcome = .error e ↔
      first.outcome = .error e ∨ ∃ a, first.outcome = .ok a ∧ (next a).outcome = .error e := by
  rw [outcome_bind_eq, bind_eq_error_iff]

/-- Two pieces of work whose parts come to the same come to the same. -/
theorem outcome_bind_congr {first second : Report α} {next next' : α → Report β}
    (h : second.outcome = first.outcome)
    (hnext : ∀ a, first.outcome = .ok a → (next' a).outcome = (next a).outcome) :
    (second >>= next').outcome = (first >>= next).outcome := by
  rw [outcome_bind_eq, outcome_bind_eq, h]
  cases hfirst : first.outcome with
  | error e => rfl
  | ok a => exact hnext a hfirst

/-! ## Lists -/

/-- Work over a list comes to what its outcomes come to, one after the other. -/
theorem outcome_mapM (f : α → Report β) (xs : List α) :
    (xs.mapM f).outcome = xs.mapM fun x => (f x).outcome := by
  induction xs with
  | nil => rfl
  | cons x xs ih =>
    rw [List.mapM_cons, List.mapM_cons, outcome_bind_eq]
    simp only [outcome_bind_eq, ih]
    rfl

/-- A fold comes to the fold of the outcomes of its steps. -/
theorem outcome_foldlM (f : σ → α → Report σ) (s : σ) (xs : List α) :
    (xs.foldlM f s).outcome = xs.foldlM (fun s x => (f s x).outcome) s := by
  induction xs generalizing s with
  | nil => rfl
  | cons x xs ih =>
    rw [List.foldlM_cons, List.foldlM_cons, outcome_bind_eq]
    simp only [ih]

/-- Saying something of every item never fails. -/
theorem outcome_forM_ok {f : α → Report Unit} (h : ∀ x, (f x).outcome = .ok ()) (xs : List α) :
    (xs.forM f).outcome = .ok () := by
  induction xs with
  | nil => rfl
  | cons x xs ih =>
    have hcons : (x :: xs).forM f = f x >>= fun _ => xs.forM f := rfl
    rw [hcons, outcome_bind_eq, h, ih]
    rfl

/-! ## Failures -/

/-- Whether a report can end with errors of one kind only. -/
def FailsOnlyWith (P : Error → Prop) (report : Report α) : Prop :=
  ∀ e, report.outcome = .error e → P e

variable {P : Error → Prop}

/-- What ends a report with errors of one kind ends it with errors of a wider kind. -/
theorem FailsOnlyWith.mono {Q : Error → Prop} {report : Report α} (h : report.FailsOnlyWith P)
    (hmono : ∀ e, P e → Q e) : report.FailsOnlyWith Q :=
  fun e he => hmono e (h e he)

/-- Work that succeeds fails with nothing. -/
theorem failsOnlyWith_of_ok {report : Report α} {a : α} (h : report.outcome = .ok a) :
    report.FailsOnlyWith P := by
  intro e he
  cases h.symm.trans he

/-- A failure is of the kind of its error. -/
theorem failsOnlyWith_fail {e : Error} (h : P e) : (fail e : Report α).FailsOnlyWith P := by
  intro e' he
  obtain rfl := Except.error.inj he
  exact h

/-- A result that is taken over fails with a malformed text only. -/
theorem failsOnlyWith_ofSyntax (h : ∀ cause, P (.malformed cause))
    (result : Except SyntaxError α) : (ofSyntax result).FailsOnlyWith P := by
  intro e he
  cases result with
  | error cause =>
    obtain rfl := Except.error.inj he
    exact h cause
  | ok a => cases he

/-- Work of two parts fails with errors of one kind only if both parts do. -/
theorem FailsOnlyWith.bind {first : Report α} {next : α → Report β} (h : first.FailsOnlyWith P)
    (hnext : ∀ a, (next a).FailsOnlyWith P) : (first >>= next).FailsOnlyWith P := by
  intro e he
  rcases outcome_bind_eq_error_iff.1 he with hfirst | ⟨a, -, ha⟩
  · exact h e hfirst
  · exact hnext a e ha

/-- A fold fails with errors of one kind only if each of its steps does. -/
theorem failsOnlyWith_foldlM {f : σ → α → Report σ} (h : ∀ s x, (f s x).FailsOnlyWith P) (s : σ)
    (xs : List α) : (xs.foldlM f s).FailsOnlyWith P := by
  induction xs generalizing s with
  | nil => exact failsOnlyWith_of_ok rfl
  | cons x xs ih =>
    rw [List.foldlM_cons]
    exact (h s x).bind ih

/-- Work over a list fails with errors of one kind only if the work on each item does. -/
theorem failsOnlyWith_mapM {f : α → Report β} (h : ∀ x, (f x).FailsOnlyWith P) (xs : List α) :
    (xs.mapM f).FailsOnlyWith P := by
  induction xs with
  | nil => exact failsOnlyWith_of_ok rfl
  | cons x xs ih =>
    rw [List.mapM_cons]
    exact (h x).bind fun y => ih.bind fun ys => failsOnlyWith_of_ok rfl

end Wiring.Report
