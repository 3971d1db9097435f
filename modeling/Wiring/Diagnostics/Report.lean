import Wiring.Diagnostics.Verbosity
import Wiring.Error
import Wiring.Resource

/-!
# Diagnostics · Reports

A `Report` is what a piece of work hands back: everything that was said and found on the way, in
order, and the outcome. Reports compose like programs that may stop with an error; what was said
before the error stays. How much is shown is not decided here: a report holds all events, and the
verbosity selects among them afterwards.
-/

namespace Wiring

/-- Something that happens while work is done. -/
inductive Event
  /-- Something is said. -/
  | said (note : Note)
  /-- A resource is found on disk. -/
  | found (location : Location)
deriving DecidableEq, Repr

/-- The note of an event that says something. -/
def Event.note? : Event → Option Note
  | said note => some note
  | found _ => none

/-- The events of a piece of work, in order, and its outcome. -/
structure Report (α : Type) where
  /-- What happened on the way. -/
  events : List Event
  /-- The result, or the error that ended the work. -/
  outcome : Except Error α

namespace Report

variable {α β : Type}

/-! ## Composition -/

/-- Work that does nothing. -/
def pure (a : α) : Report α := ⟨[], .ok a⟩

/-- One piece of work after another; an error of the first ends both. -/
def bind (first : Report α) (next : α → Report β) : Report β :=
  match first.outcome with
  | .error e => ⟨first.events, .error e⟩
  | .ok a => let second := next a; ⟨first.events ++ second.events, second.outcome⟩

instance : Monad Report where
  pure := pure
  bind := bind

instance : LawfulMonad Report := LawfulMonad.mk' Report
  (by rintro α ⟨events, _ | a⟩ <;> simp [Functor.map, bind, pure])
  (by intro α β a f; simp [Bind.bind, Pure.pure, bind, pure])
  (by
    rintro α β γ ⟨events, _ | a⟩ f g
    · simp [Bind.bind, bind]
    · rcases hf : f a with ⟨events', _ | b⟩ <;> simp [Bind.bind, bind, hf])

/-! ## Single steps -/

/-- Ends the work with an error. -/
def fail (e : Error) : Report α := ⟨[], .error e⟩

/-- Says something of a severity. -/
def say (severity : Severity) (text : String) : Report Unit :=
  ⟨[.said ⟨severity, text, false⟩], .ok ()⟩

/-- Sums up what detailed notes list in full. -/
def sumUp (text : String) : Report Unit :=
  ⟨[.said ⟨.info, text, true⟩], .ok ()⟩

/-- Takes over a result that may be a syntax error. -/
def ofSyntax (result : Except SyntaxError α) : Report α :=
  ⟨[], result.mapError .malformed⟩

/-- Takes over a result that may be a conflict. -/
def ofConflict (result : Except ConflictError α) : Report α :=
  ⟨[], result.mapError .conflict⟩

/-- Takes over a result that may be an instantiation error. -/
def ofInstantiation (result : Except InstantiationError α) : Report α :=
  ⟨[], result.mapError .instantiation⟩

/-! ## Views -/

/-- Everything that was said, in order. -/
def notes (report : Report α) : List Note :=
  report.events.filterMap Event.note?

/-- What is shown of the notes at a verbosity. -/
def shown (report : Report α) (v : Verbosity) : List Note :=
  report.notes.filter v.admits

/-- The events of composed work whose first part succeeds. -/
theorem events_bind_of_ok {first : Report α} {a : α} (h : first.outcome = .ok a)
    (next : α → Report β) : (first >>= next).events = first.events ++ (next a).events := by
  simp [Bind.bind, bind, h]

/-- The outcome of composed work. -/
theorem outcome_bind (first : Report α) (next : α → Report β) :
    (first >>= next).outcome = first.outcome.bind fun a => (next a).outcome := by
  cases h : first.outcome <;> simp [Bind.bind, bind, h, Except.bind]

/-- Work that does nothing comes to what it is given. -/
@[simp] theorem outcome_pure (a : α) : (Pure.pure a : Report α).outcome = .ok a := rfl

/-- Work that does nothing tells nothing. -/
@[simp] theorem events_pure (a : α) : (Pure.pure a : Report α).events = [] := rfl

end Report

end Wiring
