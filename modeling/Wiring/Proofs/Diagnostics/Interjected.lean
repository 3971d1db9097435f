import Wiring.Proofs.Diagnostics.Notes
import Wiring.Proofs.Interleaved

/-!
# Diagnostics · Interjected notes

Two pieces of work that come to the same and say the same, but for some notes of the second.
`Interjects extra first second` is stronger than `Adds`: the outcomes are equal in failure as in
success, all notes are compared, and the order of those that both have is kept. It is composed as
the work is (`Interjects.bind`); what would be interjected later is left out where the work ends
with an error before. Main statement: at each verbosity the notes shown differ by those interjected
notes that are shown (`Interjects.shown`).
-/

namespace Wiring.Report

variable {α β : Type} {extra : List Note} {first second : Report α}

/-- Whether the second work does as the first does and says some things in between. -/
structure Interjects (extra : List Note) (first second : Report α) : Prop where
  /-- The outcomes are equal. -/
  outcome_eq : second.outcome = first.outcome
  /-- The other notes are those of the first, in order. -/
  notes : Interleaved first.notes extra second.notes

namespace Interjects

/-- Nothing is interjected between work and itself. -/
theorem refl (report : Report α) : Interjects [] report report :=
  ⟨rfl, .refl report.notes⟩

/-- Something is said ahead. -/
theorem say_bind (h : Interjects extra first second) (severity : Severity) (text : String) :
    Interjects (⟨severity, text, false⟩ :: extra) first (say severity text >>= fun _ => second) :=
  ⟨h.outcome_eq, .right h.notes⟩

/-- **One piece of work after another.** What the second part interjects is said if the first one
succeeds. -/
theorem bind {extra' : List Note} {next next' : α → Report β} (h : Interjects extra first second)
    (hnext : ∀ a, first.outcome = .ok a → Interjects extra' (next a) (next' a)) :
    Interjects (extra ++ if second.outcome.isOk then extra' else []) (first >>= next)
      (second >>= next') := by
  refine ⟨outcome_bind_congr h.outcome_eq fun a ha => (hnext a ha).outcome_eq, ?_⟩
  have hsame := h.outcome_eq
  cases hfirst : first.outcome with
  | error e =>
    rw [hfirst] at hsame
    have hnone : (if (Except.error e : Except Error α).isOk then extra' else []) = [] := rfl
    rw [notes_bind_of_error hfirst, notes_bind_of_error hsame, hsame, hnone, List.append_nil]
    exact h.notes
  | ok a =>
    rw [hfirst] at hsame
    rw [notes_bind_of_ok hfirst, notes_bind_of_ok hsame, hsame]
    exact h.notes.append (hnext a hfirst).notes

/-- What is interjected first is all, if the work goes on alike. -/
theorem bind_left (h : Interjects extra first second) (next : α → Report β) :
    Interjects extra (first >>= next) (second >>= next) := by
  have hbind := h.bind fun a _ => refl (next a)
  rwa [ite_self, List.append_nil] at hbind

/-- Work behind two parts in which nothing is said, whatever these come to. -/
theorem bind_of_silent {γ : Type} {start : Report α} {start' : Report γ} {a : α} {a' : γ}
    {next : α → Report β} {next' : γ → Report β} (h : start.outcome = .ok a)
    (h' : start'.outcome = .ok a') (hsilent : start.notes = []) (hsilent' : start'.notes = [])
    (hnext : Interjects extra (next a) (next' a')) :
    Interjects extra (start >>= next) (start' >>= next') := by
  refine ⟨?_, ?_⟩
  · rw [outcome_bind_eq, outcome_bind_eq, h, h']
    exact hnext.outcome_eq
  · rw [notes_bind_of_ok h, notes_bind_of_ok h', hsilent, hsilent']
    exact hnext.notes

/-- **The notes shown** at a verbosity differ by those interjected notes that are shown. -/
theorem shown (h : Interjects extra first second) (v : Verbosity) :
    Interleaved (first.shown v) (extra.filter v.admits) (second.shown v) :=
  h.notes.filter v.admits

end Interjects

end Wiring.Report
