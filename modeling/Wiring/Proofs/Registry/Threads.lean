import Wiring.Proofs.Registry.Runs
import Wiring.Registry.Threads

/-!
# Registries · What threads keep

Laws of the accesses that threads make, and what all of them keep. The registry after a run is that
of its accesses, one after the other (`Run.registry_eq`), so that nothing but these has an effect.
`Guarded` says who holds the build lock, and that no loader is kept for a key while one is on its
way between the second look-up and the insertion; every step keeps it (`Guarded.step`), since only
the holder inserts. Main statement: a request that has come to a loader has decided on it in one
access since it began (`Run.exists_began`).
-/

namespace Wiring.Registry

variable {Thread : Type} {b : Builder} {t u : Thread}

/-! ## Single accesses -/

section Accesses

variable (a : Action) (r : Registry)

/-- No access changes whether loaders are kept. -/
@[simp] theorem caches_apply : (a.apply r).caches = r.caches := by
  cases a with
  | remove key removed => rw [Action.apply, invalidate_fst]
  | _ => rfl

/-- What is kept under a key after an access. -/
theorem getElem?_apply (key : LoaderKey) :
    (a.apply r).loaders[key]? =
      match a with
      | .keep kept loader => if key = kept then some loader else r.loaders[key]?
      | .remove removed _ => if key = removed then none else r.loaders[key]?
      | .clear => none
      | _ => r.loaders[key]? := by
  cases a with
  | keep kept loader => exact getElem?_insert_loader _ _ _ _
  | remove removed found =>
    rw [Action.apply, invalidate_fst]
    exact getElem?_erase_loader _ _ _
  | clear => exact Std.ExtTreeMap.getElem?_empty
  | _ => rfl

/-- A key for which nothing is kept stays so unless a loader is inserted for it. -/
theorem getElem?_apply_eq_none {key : LoaderKey} (h : r.loaders[key]? = none)
    (hkeep : ∀ loader, a ≠ .keep key loader) : (a.apply r).loaders[key]? = none := by
  rw [getElem?_apply]
  split
  · next kept loader =>
    rw [if_neg (by rintro rfl; exact hkeep loader rfl), h]
  · rw [h, ite_self]
  · rfl
  · exact h

/-- A loader that is kept after an access was kept before, or has just been inserted. -/
theorem getElem?_apply_eq_some {key : LoaderKey} {loader : Loader}
    (h : (a.apply r).loaders[key]? = some loader) :
    r.loaders[key]? = some loader ∨ a = .keep key loader := by
  rw [getElem?_apply] at h
  split at h
  · split at h
    · next hkey =>
      obtain rfl := Option.some.inj h
      exact .inr (by rw [hkey])
    · exact .inl h
  · split at h
    · cases h
    · exact .inl h
  · cases h
  · exact .inl h

/-- Numbers are never given back. -/
theorem nextId_le_apply : r.nextId ≤ (a.apply r).nextId := by
  cases a with
  | remove key removed => rw [Action.apply, invalidate_fst]
  | number id => exact Nat.le_succ _
  | _ => exact Nat.le_refl _

/-- Whether an access counts a request, as a hit or as a miss. -/
def Action.counts : Action → Bool
  | countHit => true
  | countMiss => true
  | _ => false

/-- Hits and misses together go up with an access that counts a request. -/
theorem counts_apply :
    (a.apply r).hits + (a.apply r).misses = r.hits + r.misses + a.counts.toNat := by
  cases a with
  | remove key removed =>
    rw [Action.apply, invalidate_fst]
    rfl
  | countHit => exact Nat.add_right_comm _ _ _
  | countMiss => rfl
  | _ => rfl

end Accesses

/-! ## Who holds the build lock -/

namespace Point

/-- Whether a call holds the build lock. -/
def locked : Point → Bool
  | looking locked => locked
  | hitting locked _ => locked
  | missing => true
  | numbering locked => locked
  | building locked _ => locked
  | keeping _ => true
  | releasing _ => true
  | _ => false

/-- Whether a call has seen, with the build lock, that no loader is kept, and has kept none yet. -/
def claims : Point → Bool
  | missing => true
  | numbering locked => locked
  | building locked _ => locked
  | keeping _ => true
  | _ => false

/-- Who has seen with the build lock that no loader is kept holds the lock. -/
theorem locked_of_claims {point : Point} (h : point.claims = true) : point.locked = true := by
  cases point <;> first | exact h | rfl | cases h

/-- A call that knows its result still holds the build lock if it did. -/
@[simp] theorem locked_leave (locked : Bool) (outcome : Except Error Loader) :
    (leave locked outcome).locked = locked := by
  cases locked <;> rfl

/-- A call that knows its result does not claim to keep a loader. -/
@[simp] theorem claims_leave (locked : Bool) (outcome : Except Error Loader) :
    (leave locked outcome).claims = false := by
  cases locked <;> rfl

/-- A call that has built still holds the build lock if it did. -/
@[simp] theorem locked_built (locked : Bool) (outcome : Except Error Loader) :
    (built locked outcome).locked = locked := by
  cases locked <;> cases outcome <;> rfl

/-- A call begins without the build lock. -/
@[simp] theorem locked_entry (call : Call) (caches : Bool) :
    (call.entry caches).locked = false := by
  cases call <;> cases caches <;> rfl

/-- A call does not begin with a claim to keep a loader. -/
@[simp] theorem claims_entry (call : Call) (caches : Bool) :
    (call.entry caches).claims = false := by
  cases call <;> cases caches <;> rfl

end Point

section Moves

variable {r : Registry} {holder : Option Thread} {stage : Stage} {a : Action} {call : Call}
  {point : Point}

/-- A call that goes on with the lock had it before, or takes it. -/
theorem Moves.lock_eq (h : Moves b r holder stage a (.busy call point))
    (hown : ∀ before, stage = .busy call before → before.locked = true → holder = some t)
    (hlocked : point.locked = true) : a.lock t holder = some t := by
  cases h with
  | start => simp at hlocked
  | acquire => rfl
  | absent enumerator root locked =>
    cases locked
    · cases hlocked
    · exact hown _ rfl rfl
  | countHit => exact hown _ rfl ((Point.locked_leave _ _).symm.trans hlocked)
  | build => exact hown _ rfl ((Point.locked_built _ _).symm.trans hlocked)
  | keep => exact hown _ rfl rfl
  | countMiss => exact hown _ rfl rfl
  | found | number => exact hown _ rfl hlocked
  | release | invalidate | clear => cases hlocked

/-- The lock is taken only where it is free, and given back only by a call that has it. -/
theorem Moves.lock_eq_of_ne (h : Moves b r holder stage a next)
    (hown : ∀ call before, stage = .busy call before → before.locked = true → holder = some u)
    (hne : t ≠ u) (ht : holder = some t) : a.lock u holder = some t := by
  cases h with
  | acquire enumerator root hfree =>
    rw [hfree] at ht
    cases ht
  | release call outcome =>
    exact absurd (Option.some.inj (ht.symm.trans (hown _ _ rfl rfl))) hne
  | _ => exact ht

/-- A call that claims its key did so before, or has just seen that nothing is kept for it; it
inserts nothing on the way. -/
theorem Moves.absent_of_claims {enumerator : Enumerator} {root : String}
    (h : Moves b r holder stage a (.busy (.get enumerator root) point))
    (hbefore : ∀ before, stage = .busy (.get enumerator root) before → before.claims = true →
      r.loaders[LoaderKey.of enumerator.contextId root]? = none)
    (hclaims : point.claims = true) :
    (a.apply r).loaders[LoaderKey.of enumerator.contextId root]? = none := by
  cases h with
  | start => simp at hclaims
  | absent enumerator root locked hnone => exact hnone
  | countMiss => exact hbefore _ rfl rfl
  | number call locked => exact hbefore _ rfl hclaims
  | build call enumerator root locked id outcome =>
    cases locked
    · cases outcome <;> cases hclaims
    · exact hbefore _ rfl rfl
  | countHit => simp at hclaims
  | found | acquire | keep | release => cases hclaims

/-- A loader is inserted by the call that keeps it, for its key. -/
theorem Moves.exists_keeping {key : LoaderKey} {loader : Loader}
    (h : Moves b r holder stage (.keep key loader) next) :
    ∃ enumerator root, stage = .busy (.get enumerator root) (.keeping loader) ∧
      LoaderKey.of enumerator.contextId root = key := by
  cases h with
  | keep enumerator root => exact ⟨enumerator, root, rfl, rfl⟩

end Moves

/-- What holds of the build lock and of the keys that it is held for. -/
structure Guarded (s : System Thread) : Prop where
  /-- A call that has the lock is made by the thread that holds it. -/
  holder : ∀ t call point, s.stage t = .busy call point → point.locked = true → s.holder = some t
  /-- While a loader is on its way for a key, none is kept for it. -/
  absent : ∀ t enumerator root point, s.stage t = .busy (.get enumerator root) point →
    point.claims = true → s.registry.loaders[LoaderKey.of enumerator.contextId root]? = none

/-- A registry that no thread is calling is guarded. -/
theorem guarded_quiet (r : Registry) : Guarded (System.quiet Thread r) := by
  constructor <;> simp [System.quiet]

/-- Two calls that have the lock are made by one thread. -/
theorem Guarded.eq_of_locked {s : System Thread} (h : Guarded s) {call call' : Call}
    {point point' : Point} (ht : s.stage t = .busy call point) (hpoint : point.locked = true)
    (hu : s.stage u = .busy call' point') (hpoint' : point'.locked = true) : t = u := by
  have hholder := h.holder t call point ht hpoint
  rw [h.holder u call' point' hu hpoint'] at hholder
  exact (Option.some.inj hholder).symm

/-! ## What a call decides on -/

/-- The loader that an access decides on, and its key: the one that is found, or that is
inserted. -/
def Action.decided? : Action → Option (LoaderKey × Loader)
  | look key found => found.map fun loader => (key, loader)
  | keep key loader => some (key, loader)
  | _ => none

/-- Whether an access begins a call. -/
def Action.starts : Action → Bool
  | start _ => true
  | _ => false

/-- The loader that a call is going to return. -/
def Point.result? : Point → Option Loader
  | hitting _ loader => some loader
  | releasing (.ok loader) => some loader
  | answering (.loader (.ok loader)) => some loader
  | _ => none

/-- A call that knows its loader is going to return it. -/
@[simp] theorem Point.result?_leave_ok (locked : Bool) (loader : Loader) :
    (leave locked (.ok loader)).result? = some loader := by
  cases locked <;> rfl

/-- Whether a call builds without the build lock. -/
def Point.unguarded : Point → Bool
  | numbering locked => !locked
  | building locked _ => !locked
  | _ => false

/-- A call that knows its result no longer builds. -/
@[simp] theorem Point.unguarded_leave (locked : Bool) (outcome : Except Error Loader) :
    (leave locked outcome).unguarded = false := by
  cases locked <;> rfl

/-- Whether a request for a loader has decided on what it is going to return, and on nothing
else. -/
structure Decided (enumerator : Enumerator) (root : String) (point : Point)
    (decided : List (LoaderKey × Loader)) : Prop where
  /-- It builds with the lock only. -/
  guarded : point.unguarded = false
  /-- It has decided on its result. -/
  eq : decided =
    (point.result?.map fun loader => (LoaderKey.of enumerator.contextId root, loader)).toList

section Moves

variable {r : Registry} {holder : Option Thread} {stage : Stage} {a : Action} {call : Call}
  {point before : Point} {enumerator : Enumerator} {root : String}

/-- A loader that is decided on is kept. -/
theorem Moves.kept_of_decided {key : LoaderKey} {loader : Loader} {next : Stage}
    (h : Moves b r holder stage a next) (hdecided : a.decided? = some (key, loader)) :
    (a.apply r).loaders[key]? = some loader := by
  cases h with
  | found enumerator root locked found hkept =>
    obtain ⟨rfl, rfl⟩ := Prod.mk.inj (Option.some.inj hdecided)
    exact hkept
  | keep enumerator root kept =>
    obtain ⟨rfl, rfl⟩ := Prod.mk.inj (Option.some.inj hdecided)
    rw [getElem?_apply]
    exact if_pos rfl
  | _ => cases hdecided

/-- A thread that returns an answer was about to. -/
theorem Moves.stage_of_answer {answer : Answer} {next : Stage}
    (h : Moves b r holder stage (.answer call answer) next) :
    stage = .busy call (.answering answer) := by
  cases h
  rfl

/-- A thread that starts a call was idle, and goes to where the call begins. -/
theorem Moves.eq_of_start {next : Stage} (h : Moves b r holder stage (.start call) next) :
    stage = .idle ∧ next = .busy call (call.entry r.caches) := by
  cases h
  exact ⟨rfl, rfl⟩

/-- A call that is in progress has just begun, or goes on. -/
theorem Moves.begins_or_goesOn (h : Moves b r holder stage a (.busy call point)) :
    (stage = .idle ∧ a = .start call ∧ point = call.entry r.caches) ∨
      ∃ before, stage = .busy call before ∧ a.starts = false := by
  cases h with
  | start => exact .inl ⟨rfl, rfl, rfl⟩
  | _ => exact .inr ⟨_, rfl, rfl⟩

/-- **A request decides** on what it is going to return, and only once. -/
theorem Moves.decided {decided : List (LoaderKey × Loader)}
    (h : Moves b r holder (.busy (.get enumerator root) before) a
      (.busy (.get enumerator root) point))
    (hbefore : Decided enumerator root before decided) :
    Decided enumerator root point (decided ++ a.decided?.toList) := by
  obtain ⟨hguarded, rfl⟩ := hbefore
  cases h with
  | found => exact ⟨rfl, rfl⟩
  | absent enumerator root locked => cases locked <;> exact ⟨rfl, rfl⟩
  | countHit => exact ⟨Point.unguarded_leave _ _, by rw [Point.result?_leave_ok]; rfl⟩
  | build call enumerator root locked id outcome =>
    cases locked
    · cases hguarded
    · cases outcome <;> exact ⟨rfl, rfl⟩
  | release call outcome => cases outcome <;> exact ⟨rfl, rfl⟩
  | number call locked =>
    cases locked
    · cases hguarded
    · exact ⟨rfl, rfl⟩
  | _ => exact ⟨rfl, rfl⟩

end Moves

/-! ## Runs -/

/-- The registry after some accesses. -/
def replay (r : Registry) (events : List (Event Thread)) : Registry :=
  events.foldl (fun r event => event.action.apply r) r

/-- The last access is made last. -/
theorem replay_append_singleton (r : Registry) (events : List (Event Thread))
    (event : Event Thread) :
    replay r (events ++ [event]) = event.action.apply (replay r events) := by
  simp [replay]

variable [DecidableEq Thread] {start m s s' : System Thread}
  {events first second : List (Event Thread)} {event : Event Thread}

/-- The thread of an access goes on to the stage that it is given. -/
@[simp] theorem stage_after_self (s : System Thread) (event : Event Thread) (next : Stage) :
    (s.after event next).stage event.thread = next :=
  if_pos rfl

/-- What a thread does is left alone by the others. -/
theorem stage_after_of_ne {next : Stage} (h : t ≠ event.thread) :
    (s.after event next).stage t = s.stage t :=
  if_neg h

/-- After a step, a thread is where the step has brought it, or, being another one, where it was. -/
theorem stage_after_cases {next : Stage} {call : Call} {point : Point}
    (h : (s.after event next).stage t = .busy call point) :
    (t = event.thread ∧ next = .busy call point) ∨
      (t ≠ event.thread ∧ s.stage t = .busy call point) := by
  by_cases ht : t = event.thread
  · subst ht
    rw [stage_after_self] at h
    exact .inl ⟨rfl, h⟩
  · rw [stage_after_of_ne ht] at h
    exact .inr ⟨ht, h⟩

/-- A step is a move of its thread. -/
theorem Step.exists_moves (h : Step b s event s') :
    ∃ next, Moves b s.registry s.holder (s.stage event.thread) event.action next ∧
      s' = s.after event next := by
  cases h with
  | intro next hmoves => exact ⟨next, hmoves, rfl⟩

/-- A step does to the registry what its access does. -/
theorem Step.registry_eq (h : Step b s event s') :
    s'.registry = event.action.apply s.registry := by
  obtain ⟨next, -, rfl⟩ := h.exists_moves
  rfl

/-- A step leaves the other threads where they are. -/
theorem Step.stage_of_ne (h : Step b s event s') (hne : t ≠ event.thread) :
    s'.stage t = s.stage t := by
  obtain ⟨next, -, rfl⟩ := h.exists_moves
  exact stage_after_of_ne hne

/-- A thread that makes no access stays where it is. -/
theorem Run.stage_eq (h : Run b start events s) (hothers : ∀ event ∈ events, event.thread ≠ t) :
    s.stage t = start.stage t := by
  induction h with
  | nil => rfl
  | @snoc events s s' event hrun hstep ih =>
    rw [hstep.stage_of_ne (hothers event (by simp)).symm]
    exact ih fun other hother => hothers other (List.mem_append_left _ hother)

/-- **The registry after a run** is that of the accesses, one after the other. -/
theorem Run.registry_eq (h : Run b start events s) : s.registry = replay start.registry events := by
  induction h with
  | nil => rfl
  | snoc _ hstep ih => rw [replay_append_singleton, hstep.registry_eq, ih]

/-- Runs one after the other are a run. -/
theorem Run.append (hfirst : Run b start first m) (hsecond : Run b m second s) :
    Run b start (first ++ second) s := by
  induction hsecond with
  | nil =>
    rw [List.append_nil]
    exact hfirst
  | snoc _ hstep ih =>
    rw [← List.append_assoc]
    exact ih.snoc hstep

/-- A run that ends with an access is a run and a step. -/
theorem Run.last (h : Run b start (events ++ [event]) s') :
    ∃ s, Run b start events s ∧ Step b s event s' := by
  generalize hall : events ++ [event] = all at h
  cases h with
  | nil => simp at hall
  | snoc hrun hstep =>
    obtain ⟨rfl, hevent⟩ := List.append_inj' hall rfl
    obtain rfl := List.singleton_inj.1 hevent
    exact ⟨_, hrun, hstep⟩

/-- A run without accesses changes nothing. -/
theorem Run.eq_of_nil (h : Run b start [] s) : s = start := by
  generalize hall : ([] : List (Event Thread)) = all at h
  cases h with
  | nil => rfl
  | snoc => simp at hall

/-- **A run can be cut** between any two accesses. -/
theorem Run.split (h : Run b start (first ++ second) s) :
    ∃ m, Run b start first m ∧ Run b m second s := by
  induction second using List.reverseRecOn generalizing s with
  | nil =>
    rw [List.append_nil] at h
    exact ⟨s, h, .nil⟩
  | append_singleton second event ih =>
    rw [← List.append_assoc] at h
    obtain ⟨s₁, hrun, hstep⟩ := h.last
    obtain ⟨m, hfirst, hsecond⟩ := ih hrun
    exact ⟨m, hfirst, hsecond.snoc hstep⟩

/-- A run begins with its first access. -/
theorem Run.uncons (h : Run b start (event :: events) s) :
    ∃ m, Step b start event m ∧ Run b m events s := by
  rw [← List.singleton_append] at h
  obtain ⟨m, hone, hrest⟩ := h.split
  have hlast : Run b start ([] ++ [event]) m := hone
  obtain ⟨s₁, hnil, hstep⟩ := hlast.last
  rw [hnil.eq_of_nil] at hstep
  exact ⟨m, hstep, hrest⟩

/-- A run is a run up to an access, the access, and a run from there on. -/
theorem Run.cut (h : Run b start (first ++ event :: second) s') :
    ∃ m s, Run b start first m ∧ Step b m event s ∧ Run b s second s' := by
  obtain ⟨m, hfirst, hrest⟩ := h.split
  obtain ⟨s, hstep, hsecond⟩ := hrest.uncons
  exact ⟨m, s, hfirst, hstep, hsecond⟩

/-- **What holds at first and is kept by each step** holds after every run. -/
theorem Run.invariant {P : System Thread → Prop} (h : Run b start events s) (hfirst : P start)
    (hstep : ∀ s event s', P s → Step b s event s' → P s') : P s := by
  induction h with
  | nil => exact hfirst
  | snoc _ hone ih => exact hstep _ _ _ ih hone

/-- No run changes whether loaders are kept. -/
theorem Run.caches_eq (h : Run b start events s) : s.registry.caches = start.registry.caches := by
  refine h.invariant (P := fun s => s.registry.caches = start.registry.caches) rfl ?_
  intro s event s' hs hstep
  rw [hstep.registry_eq, caches_apply, hs]

/-- Numbers are not given back in a run. -/
theorem Run.nextId_le (h : Run b start events s) :
    start.registry.nextId ≤ s.registry.nextId := by
  refine h.invariant (P := fun s => start.registry.nextId ≤ s.registry.nextId) (Nat.le_refl _) ?_
  intro s event s' hs hstep
  rw [hstep.registry_eq]
  exact hs.trans (nextId_le_apply _ _)

/-- **Every step keeps the lock and the keys guarded.** -/
theorem Guarded.step (h : Guarded s) (hstep : Step b s event s') : Guarded s' := by
  obtain ⟨next, hmoves, rfl⟩ := hstep.exists_moves
  constructor
  · intro t call point hstage hlocked
    obtain ⟨rfl, rfl⟩ | ⟨hne, hbefore⟩ := stage_after_cases hstage
    · exact hmoves.lock_eq (fun before hbefore => h.holder _ _ before hbefore) hlocked
    · exact hmoves.lock_eq_of_ne (fun call before hbefore => h.holder _ _ before hbefore) hne
        (h.holder t call point hbefore hlocked)
  · intro t enumerator root point hstage hclaims
    obtain ⟨rfl, rfl⟩ | ⟨hne, hbefore⟩ := stage_after_cases hstage
    · exact hmoves.absent_of_claims (fun before hbefore => h.absent _ _ _ before hbefore) hclaims
    · refine getElem?_apply_eq_none _ _ (h.absent t enumerator root point hbefore hclaims) ?_
      intro loader hkeep
      rw [hkeep] at hmoves
      -- whoever inserts has the lock, and so does the thread that claims the key
      obtain ⟨other, name, hkeeping, -⟩ := hmoves.exists_keeping
      exact hne (h.eq_of_locked hbefore (Point.locked_of_claims hclaims) hkeeping rfl)

/-- A guarded system stays guarded in every run. -/
theorem Run.guarded (h : Run b start events s) (hstart : Guarded start) : Guarded s :=
  h.invariant hstart fun _ _ _ hs hstep => hs.step hstep

/-! ## What happened since a call began -/

/-- The loaders that a thread decides on, in order. -/
def decisions (t : Thread) (events : List (Event Thread)) : List (LoaderKey × Loader) :=
  events.filterMap fun event => if event.thread = t then event.action.decided? else none

/-- A further access adds what its thread decides on with it, if anything. -/
theorem decisions_snoc_self (events : List (Event Thread)) (event : Event Thread) :
    decisions event.thread (events ++ [event]) =
      decisions event.thread events ++ event.action.decided?.toList := by
  unfold decisions
  rw [List.filterMap_append]
  cases h : event.action.decided? <;> simp [h]

/-- A further access adds no decision of another thread. -/
theorem decisions_snoc_of_ne (events : List (Event Thread)) (hne : t ≠ event.thread) :
    decisions t (events ++ [event]) = decisions t events := by
  unfold decisions
  rw [List.filterMap_append]
  simp [Ne.symm hne]

/-- Whether a thread began a call, and `during` is what has happened since. -/
def Began (t : Thread) (call : Call) (during events : List (Event Thread)) : Prop :=
  (∃ before, events = before ++ ⟨t, .start call⟩ :: during) ∧
    ∀ event ∈ during, event.thread = t → event.action.starts = false

/-- **What a request for a loader decides on.** A call that is in progress began at some time. If it
may be answered with a kept loader, it has decided since on what it is going to return, and on
nothing else. -/
theorem Run.exists_began (h : Run b start events s) (hcaches : start.registry.caches = true)
    (hidle : start.stage t = .idle) {call : Call} {point : Point}
    (hbusy : s.stage t = .busy call point) :
    ∃ during, Began t call during events ∧
      ∀ enumerator root, call = .get enumerator root →
        Decided enumerator root point (decisions t during) := by
  induction h generalizing call point with
  | nil =>
    rw [hidle] at hbusy
    cases hbusy
  | @snoc events s s' event hrun hstep ih =>
    obtain ⟨next, hmoves, rfl⟩ := hstep.exists_moves
    by_cases ht : t = event.thread
    · subst ht
      rw [stage_after_self] at hbusy
      subst hbusy
      obtain ⟨-, haction, rfl⟩ | ⟨before, hbefore, hgoes⟩ := hmoves.begins_or_goesOn
      · refine ⟨[], ⟨⟨events, by rw [← haction]⟩, by simp⟩, ?_⟩
        rintro enumerator root rfl
        rw [hrun.caches_eq, hcaches]
        exact ⟨rfl, rfl⟩
      · obtain ⟨during, ⟨⟨earlier, rfl⟩, hsince⟩, hdecided⟩ := ih hbefore
        refine ⟨during ++ [event], ⟨⟨earlier, by simp⟩, ?_⟩, ?_⟩
        · intro other hother
          rcases List.mem_append.1 hother with hother | hlast
          · exact hsince other hother
          · obtain rfl := List.mem_singleton.1 hlast
            exact fun _ => hgoes
        · rintro enumerator root rfl
          rw [decisions_snoc_self]
          rw [hbefore] at hmoves
          exact hmoves.decided (hdecided enumerator root rfl)
    · rw [stage_after_of_ne ht] at hbusy
      obtain ⟨during, ⟨⟨earlier, rfl⟩, hsince⟩, hdecided⟩ := ih hbusy
      refine ⟨during ++ [event], ⟨⟨earlier, by simp⟩, ?_⟩, ?_⟩
      · intro other hother
        rcases List.mem_append.1 hother with hother | hlast
        · exact hsince other hother
        · obtain rfl := List.mem_singleton.1 hlast
          exact fun hthread => absurd hthread.symm ht
      · rw [decisions_snoc_of_ne during ht]
        exact hdecided

/-- **A request that returns a loader** decided on it since it began, and on nothing else. -/
theorem Run.exists_began_of_answer (h : Run b start events s)
    (hcaches : start.registry.caches = true) (hidle : start.stage t = .idle)
    {enumerator : Enumerator} {root : String} {loader : Loader}
    (hstep : Step b s ⟨t, .answer (.get enumerator root) (.loader (.ok loader))⟩ s') :
    ∃ during, Began t (.get enumerator root) during events ∧
      decisions t during = [(LoaderKey.of enumerator.contextId root, loader)] := by
  obtain ⟨next, hmoves, -⟩ := hstep.exists_moves
  obtain ⟨during, hbegan, hdecided⟩ := h.exists_began hcaches hidle hmoves.stage_of_answer
  exact ⟨during, hbegan, (hdecided enumerator root rfl).eq⟩

/-- What a thread decides on, it decides on in one of its accesses. -/
theorem exists_of_mem_decisions {pair : LoaderKey × Loader} (h : pair ∈ decisions t events) :
    ∃ event ∈ events, event.thread = t ∧ event.action.decided? = some pair := by
  obtain ⟨event, hevent, hone⟩ := List.mem_filterMap.1 h
  split at hone
  · next hthread => exact ⟨event, hevent, hthread, hone⟩
  · cases hone

end Wiring.Registry
