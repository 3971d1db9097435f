import Mathlib.Data.List.Perm.Basic
import Wiring.Proofs.Registry.Alone
import Wiring.Proofs.Registry.Identity

/-!
# Registries · Single flight

What any number of threads make of one registry that keeps loaders, in whatever order their accesses
come, and whichever builds fail. Numbers are taken one after the other (`Taken`), so no two loaders
that were built bear the same one (`Accounted`), and loaders come from builds only (`Stems`).
Between two removals of a key nothing takes its loader out of the table, and a loader is only
inserted where the lock was held since none was found: so one is inserted at most, and all who find
one find that one (`Run.keptIn_eq`). Every request for a loader is counted once on its way
(`Moves.counted`), so that the counts add up whenever no call is in progress. Main statement:
`single_flight`.
-/

namespace Wiring.Registry

variable {Thread : Type} {b : Builder} {t u : Thread} {key : LoaderKey} {loader : Loader}

/-! ## Numbers -/

/-- The loader that comes out of a build. -/
def Action.built? : Action → Option Loader
  | build _ (.ok loader) => some loader
  | _ => none

/-- The loaders that were built, in order. -/
def allBuilt (events : List (Event Thread)) : List Loader :=
  events.filterMap fun event => event.action.built?

/-- A further access adds the loader that comes out of it, if it is a build. -/
theorem allBuilt_append_singleton (events : List (Event Thread)) (event : Event Thread) :
    allBuilt (events ++ [event]) = allBuilt events ++ event.action.built?.toList := by
  unfold allBuilt
  rw [List.filterMap_append]
  cases h : event.action.built? <;> simp [h]

/-- A loader was built after a further access exactly if it was before, or that access built it. -/
theorem mem_allBuilt_append_singleton {events : List (Event Thread)} {event : Event Thread} :
    loader ∈ allBuilt (events ++ [event]) ↔
      loader ∈ allBuilt events ∨ event.action.built? = some loader := by
  simp [allBuilt_append_singleton]

namespace Point

/-- The number that a call has taken for a loader that it has not built yet. -/
def taken? : Point → Option Nat
  | building _ id => some id
  | _ => none

/-- The loader that a call carries. -/
def carried? : Point → Option Loader
  | keeping loader => some loader
  | point => point.result?

/-- A call begins without a number. -/
@[simp] theorem taken?_entry (call : Call) (caches : Bool) : (call.entry caches).taken? = none := by
  cases call <;> cases caches <;> rfl

/-- A call that knows its result has no number to build with. -/
@[simp] theorem taken?_leave (locked : Bool) (outcome : Except Error Loader) :
    (leave locked outcome).taken? = none := by
  cases locked <;> rfl

/-- A call that has built has no number to build with. -/
@[simp] theorem taken?_built (locked : Bool) (outcome : Except Error Loader) :
    (built locked outcome).taken? = none := by
  cases locked <;> cases outcome <;> rfl

/-- A call begins without a loader. -/
@[simp] theorem carried?_entry (call : Call) (caches : Bool) :
    (call.entry caches).carried? = none := by
  cases call <;> cases caches <;> rfl

/-- A call that knows its loader carries it. -/
@[simp] theorem carried?_leave_ok (locked : Bool) (loader : Loader) :
    (leave locked (.ok loader)).carried? = some loader := by
  cases locked <;> rfl

end Point

section Moves

variable {r : Registry} {holder : Option Thread} {stage next : Stage} {a : Action} {call : Call}
  {point : Point} {id : Nat}

/-- A call that comes to have a number has just taken it. -/
theorem Moves.number_of_taken (h : Moves b r holder stage a (.busy call point))
    (htaken : point.taken? = some id) : a = .number id ∧ id = r.nextId := by
  cases h with
  | number call locked =>
    obtain rfl := Option.some.inj htaken
    exact ⟨rfl, rfl⟩
  | start | countHit | build => simp at htaken
  | absent enumerator root locked => cases locked <;> cases htaken
  | _ => cases htaken

/-- A loader is built with the number that the call has taken. -/
theorem Moves.taken_of_built (h : Moves b r holder stage a next)
    (hbuilt : a.built? = some loader) :
    ∃ call point, stage = .busy call point ∧ point.taken? = some loader.id := by
  cases h with
  | build call enumerator root locked id outcome hasked hbuild =>
    cases outcome with
    | error e => cases hbuilt
    | ok built =>
      obtain rfl := Option.some.inj hbuilt
      exact ⟨call, _, rfl, congrArg some (b.id_eq hbuild).symm⟩
  | _ => cases hbuilt

/-- A loader that a call carries was carried before, kept, or has just been built. -/
theorem Moves.carried (h : Moves b r holder stage a (.busy call point))
    (hcarried : point.carried? = some loader) :
    (∃ before, stage = .busy call before ∧ before.carried? = some loader) ∨
      (∃ key : LoaderKey, r.loaders[key]? = some loader) ∨ a.built? = some loader := by
  cases h with
  | found enumerator root locked found hkept =>
    obtain rfl := Option.some.inj hcarried
    exact .inr (.inl ⟨_, hkept⟩)
  | countHit enumerator root locked found =>
    rw [Point.carried?_leave_ok] at hcarried
    exact .inl ⟨_, rfl, hcarried⟩
  | build call enumerator root locked id outcome =>
    cases outcome with
    | error e => cases locked <;> cases hcarried
    | ok built => cases locked <;> exact .inr (.inr hcarried)
  | keep => exact .inl ⟨_, rfl, hcarried⟩
  | release call outcome => cases outcome <;> exact .inl ⟨_, rfl, hcarried⟩
  | start => simp at hcarried
  | absent enumerator root locked => cases locked <;> cases hcarried
  | _ => cases hcarried

end Moves

/-- What holds of the numbers that are taken for loaders not built yet. -/
structure Taken (s : System Thread) : Prop where
  /-- They are below the next one, -/
  lt : ∀ t call point id, s.stage t = .busy call point → point.taken? = some id →
    id < s.registry.nextId
  /-- and no two threads have taken the same. -/
  one : ∀ t u call call' point point' id, s.stage t = .busy call point →
    point.taken? = some id → s.stage u = .busy call' point' → point'.taken? = some id → t = u

/-- What holds of the numbers that loaders bear. -/
structure Accounted (events : List (Event Thread)) (s : System Thread) : Prop where
  /-- They are below the next one, -/
  lt : ∀ loader ∈ allBuilt events, loader.id < s.registry.nextId
  /-- no two loaders bear the same, -/
  nodup : ((allBuilt events).map Loader.id).Nodup
  /-- and none bears one that is taken for a loader not built yet. -/
  fresh : ∀ t call point id, s.stage t = .busy call point → point.taken? = some id →
    ∀ loader ∈ allBuilt events, loader.id ≠ id

/-- Whether all loaders that are kept or carried were built. -/
structure Stems (events : List (Event Thread)) (s : System Thread) : Prop where
  /-- Those that are kept. -/
  kept : ∀ (key : LoaderKey) (loader : Loader), s.registry.loaders[key]? = some loader →
    loader ∈ allBuilt events
  /-- Those that calls carry. -/
  carried : ∀ t call point loader, s.stage t = .busy call point →
    point.carried? = some loader → loader ∈ allBuilt events

section Runs

variable [DecidableEq Thread] {start s s' : System Thread} {events : List (Event Thread)}
  {event : Event Thread}

/-- A number that is taken after a step was taken before, or is the one before the next. -/
theorem Step.taken_cases (hstep : Step b s event s') {call : Call} {point : Point} {id : Nat}
    (hbusy : s'.stage t = .busy call point) (hid : point.taken? = some id) :
    (t = event.thread ∧ event.action = .number id ∧ id = s.registry.nextId) ∨
      (t ≠ event.thread ∧ s.stage t = .busy call point) := by
  obtain ⟨next, hmoves, rfl⟩ := hstep.exists_moves
  obtain ⟨rfl, rfl⟩ | hother := stage_after_cases hbusy
  · exact .inl ⟨rfl, hmoves.number_of_taken hid⟩
  · exact .inr hother

/-- Numbers are not given back by an access. -/
theorem Step.nextId_le (hstep : Step b s event s') :
    s.registry.nextId ≤ s'.registry.nextId := by
  rw [hstep.registry_eq]
  exact nextId_le_apply _ _

/-- **Numbers are taken one after the other.** -/
theorem Taken.step (h : Taken s) (hstep : Step b s event s') : Taken s' := by
  refine ⟨?_, ?_⟩
  · intro t call point id hbusy hid
    obtain ⟨-, haction, rfl⟩ | ⟨-, hbefore⟩ := hstep.taken_cases hbusy hid
    · rw [hstep.registry_eq, haction]
      exact Nat.lt_succ_self _
    · exact (h.lt t call point id hbefore hid).trans_le hstep.nextId_le
  · intro t u call call' point point' id ht hid hu hid'
    obtain ⟨rfl, -, hnew⟩ | ⟨-, htbefore⟩ := hstep.taken_cases ht hid
    · obtain ⟨rfl, -, -⟩ | ⟨-, hubefore⟩ := hstep.taken_cases hu hid'
      · rfl
      · exact absurd hnew (Nat.ne_of_lt (h.lt u call' point' id hubefore hid'))
    · obtain ⟨rfl, -, hnew⟩ | ⟨-, hubefore⟩ := hstep.taken_cases hu hid'
      · exact absurd hnew (Nat.ne_of_lt (h.lt t call point id htbefore hid))
      · exact h.one t u call call' point point' id htbefore hid hubefore hid'

/-- A loader is built with a number that its thread has taken. -/
theorem Step.taken_of_built (hstep : Step b s event s')
    (hbuilt : event.action.built? = some loader) :
    ∃ call point, s.stage event.thread = .busy call point ∧ point.taken? = some loader.id := by
  obtain ⟨next, hmoves, -⟩ := hstep.exists_moves
  exact hmoves.taken_of_built hbuilt

/-- **Every step accounts for its number.** -/
theorem Accounted.step (h : Accounted events s) (htaken : Taken s)
    (hstep : Step b s event s') : Accounted (events ++ [event]) s' := by
  refine ⟨?_, ?_, ?_⟩
  · intro loader hloader
    refine Nat.lt_of_lt_of_le ?_ hstep.nextId_le
    obtain hold | hnew := mem_allBuilt_append_singleton.1 hloader
    · exact h.lt loader hold
    · obtain ⟨call, point, hbusy, hid⟩ := hstep.taken_of_built hnew
      exact htaken.lt _ _ _ _ hbusy hid
  · rw [allBuilt_append_singleton, List.map_append, List.nodup_append]
    refine ⟨h.nodup, ?_, ?_⟩
    · cases event.action.built? <;> simp
    · intro id hid id' hid'
      obtain ⟨old, hold, rfl⟩ := List.mem_map.1 hid
      obtain ⟨new, hnew, rfl⟩ := List.mem_map.1 hid'
      obtain ⟨call, point, hbusy, hnumber⟩ := hstep.taken_of_built (Option.mem_toList.1 hnew)
      exact h.fresh _ _ _ _ hbusy hnumber old hold
  · intro t call point id hbusy hid loader hloader
    obtain ⟨-, haction, rfl⟩ | ⟨hne, hbefore⟩ := hstep.taken_cases hbusy hid
    · obtain hold | hnew := mem_allBuilt_append_singleton.1 hloader
      · exact Nat.ne_of_lt (h.lt loader hold)
      · rw [haction] at hnew
        cases hnew
    · obtain hold | hnew := mem_allBuilt_append_singleton.1 hloader
      · exact h.fresh t call point id hbefore hid loader hold
      · obtain ⟨call', point', hbusy', hnumber⟩ := hstep.taken_of_built hnew
        rintro rfl
        exact hne (htaken.one _ _ _ _ _ _ _ hbefore hid hbusy' hnumber)

/-- **Loaders come from builds only.** -/
theorem Stems.step (h : Stems events s) (hstep : Step b s event s') :
    Stems (events ++ [event]) s' := by
  obtain ⟨next, hmoves, rfl⟩ := hstep.exists_moves
  refine ⟨?_, ?_⟩
  · intro key loader hkept
    refine mem_allBuilt_append_singleton.2 (.inl ?_)
    obtain hbefore | haction := getElem?_apply_eq_some _ _ hkept
    · exact h.kept key loader hbefore
    · rw [haction] at hmoves
      obtain ⟨enumerator, root, hbusy, -⟩ := hmoves.exists_keeping
      exact h.carried _ _ _ loader hbusy rfl
  · intro t call point loader hbusy hcarried
    obtain ⟨-, rfl⟩ | ⟨-, hbefore⟩ := stage_after_cases hbusy
    · obtain ⟨before, hbefore, hcarried⟩ | ⟨key, hkept⟩ | hnew := hmoves.carried hcarried
      · exact mem_allBuilt_append_singleton.2 (.inl (h.carried _ _ _ loader hbefore hcarried))
      · exact mem_allBuilt_append_singleton.2 (.inl (h.kept key loader hkept))
      · exact mem_allBuilt_append_singleton.2 (.inr hnew)
    · exact mem_allBuilt_append_singleton.2 (.inl (h.carried t call point loader hbefore hcarried))

/-- **What was built** in a registry that begins with no loaders. -/
theorem run_accounted {r : Registry} (hempty : r.loaders = ∅)
    (h : Run b (System.quiet Thread r) events s) :
    Taken s ∧ Accounted events s ∧ Stems events s := by
  induction h with
  | nil =>
    have hidle : ∀ t, (System.quiet Thread r).stage t = .idle := fun _ => rfl
    have hloaders : (System.quiet Thread r).registry.loaders = ∅ := hempty
    exact ⟨⟨by simp [hidle], by simp [hidle]⟩,
      ⟨by simp [allBuilt], List.nodup_nil, by simp [hidle]⟩, by simp [hloaders], by simp [hidle]⟩
  | snoc _ hstep ih =>
    obtain ⟨htaken, haccounted, hstems⟩ := ih
    exact ⟨htaken.step hstep, haccounted.step htaken hstep, hstems.step hstep⟩

end Runs

/-! ## Between two removals -/

/-- The loader that an access inserts for a key. -/
def Action.kept? (key : LoaderKey) : Action → Option Loader
  | keep kept loader => if kept = key then some loader else none
  | _ => none

/-- The loaders that are inserted for a key, in order. -/
def keptIn (key : LoaderKey) (events : List (Event Thread)) : List Loader :=
  events.filterMap fun event => event.action.kept? key

/-- A further access adds the loader that it inserts for the key, if any. -/
theorem keptIn_append_singleton (events : List (Event Thread)) (event : Event Thread) :
    keptIn key (events ++ [event]) = keptIn key events ++ (event.action.kept? key).toList := by
  unfold keptIn
  rw [List.filterMap_append]
  cases h : event.action.kept? key <;> simp [h]

/-- Whether an access takes the loader of a key out of the table. -/
def Action.Removes (key : LoaderKey) (a : Action) : Prop :=
  (∃ loader, a = .remove key (some loader)) ∨ a = .clear

/-- Only an insertion for the key inserts a loader for it. -/
theorem Action.kept?_eq_some {a : Action} (h : a.kept? key = some loader) :
    a = .keep key loader := by
  cases a with
  | keep kept other =>
    obtain ⟨rfl, hloader⟩ := Option.ite_none_right_eq_some.1 h
    rw [Option.some.inj hloader]
  | _ => cases h

section Moves

variable {r : Registry} {holder : Option Thread} {stage next : Stage} {a : Action}

/-- An access that inserts nothing for a key and does not take its loader out leaves it alone. -/
theorem Moves.getElem?_eq (h : Moves b r holder stage a next) (hkept : a.kept? key = none)
    (hremoves : ¬a.Removes key) : (a.apply r).loaders[key]? = r.loaders[key]? := by
  rw [getElem?_apply]
  cases h with
  | keep enumerator root loader =>
    exact if_neg fun hkey => by simp [Action.kept?, hkey] at hkept
  | invalidate removed =>
    show (if key = removed then none else r.loaders[key]?) = _
    split
    · next hkey =>
      subst hkey
      -- nothing was found, since it would have been taken out
      rw [invalidate_snd] at hremoves
      cases hfound : r.loaders[key]? with
      | none => rfl
      | some loader => exact absurd (.inl ⟨loader, by rw [hfound]⟩) hremoves
    · rfl
  | clear => exact absurd (.inr rfl) hremoves
  | _ => rfl

end Moves

section Runs

variable [DecidableEq Thread] {m s s' : System Thread} {period : List (Event Thread)}
  {event : Event Thread}

/-- A loader is inserted only where none is kept. -/
theorem Guarded.absent_of_keep (h : Guarded s) (hstep : Step b s event s')
    (hkeep : event.action = .keep key loader) : s.registry.loaders[key]? = none := by
  obtain ⟨next, hmoves, -⟩ := hstep.exists_moves
  rw [hkeep] at hmoves
  obtain ⟨enumerator, root, hbusy, rfl⟩ := hmoves.exists_keeping
  exact h.absent _ _ _ _ hbusy rfl

/-- **A step that takes no loader of a key out** leaves the one that is kept, or inserts the first
one. -/
theorem Guarded.toList_getElem? (h : Guarded s) (hstep : Step b s event s')
    (hremoves : ¬event.action.Removes key) :
    s'.registry.loaders[key]?.toList =
      s.registry.loaders[key]?.toList ++ (event.action.kept? key).toList := by
  obtain ⟨next, hmoves, -⟩ := hstep.exists_moves
  rw [hstep.registry_eq]
  cases hkept : event.action.kept? key with
  | none =>
    rw [hmoves.getElem?_eq hkept hremoves]
    exact (List.append_nil _).symm
  | some loader =>
    have haction := Action.kept?_eq_some hkept
    rw [hmoves.kept_of_decided (by rw [haction]; rfl), h.absent_of_keep hstep haction]
    rfl

/-- **Between two removals of a key** one loader is inserted for it at most, and all accesses that
find or insert one have that one. -/
theorem Run.keptIn_eq (h : Run b m period s) (hguarded : Guarded m)
    (hnone : m.registry.loaders[key]? = none)
    (hremoves : ∀ event ∈ period, ¬event.action.Removes key) :
    keptIn key period = s.registry.loaders[key]?.toList ∧
      ∀ event ∈ period, ∀ loader, event.action.decided? = some (key, loader) →
        s.registry.loaders[key]? = some loader := by
  induction h with
  | nil => exact ⟨by rw [hnone]; rfl, by simp⟩
  | @snoc period s s' event hrun hstep ih =>
    obtain ⟨hkept, hdecided⟩ := ih fun event hevent =>
      hremoves event (List.mem_append_left _ hevent)
    have hafter := (hrun.guarded hguarded).toList_getElem? hstep
      (hremoves event (List.mem_append_right _ (List.mem_singleton_self event)))
    constructor
    · rw [keptIn_append_singleton, hkept, hafter]
    · intro other hother loader hloader
      rcases List.mem_append.1 hother with hother | hlast
      · -- a loader that is kept stays, so that none is inserted
        have hbefore := hdecided other hother loader hloader
        have hmem : loader ∈ s'.registry.loaders[key]?.toList := by
          rw [hafter, hbefore]
          exact List.mem_append_left _ (List.mem_singleton_self loader)
        exact Option.mem_toList.1 hmem
      · obtain rfl := List.mem_singleton.1 hlast
        obtain ⟨next, hmoves, -⟩ := hstep.exists_moves
        rw [hstep.registry_eq]
        exact hmoves.kept_of_decided hloader

end Runs

/-! ## Counts -/

/-- Whether an access begins a request for a loader. -/
def Action.asks : Action → Bool
  | start (.get _ _) => true
  | _ => false

/-- Whether a call has still to be counted. -/
def Point.uncounted : Point → Bool
  | looking _ => true
  | hitting _ _ => true
  | waiting => true
  | missing => true
  | _ => false

/-- Whether a thread makes a call that has still to be counted. -/
def Stage.uncounted : Stage → Bool
  | idle => false
  | busy _ point => point.uncounted

/-- A call that knows its result has been counted. -/
@[simp] theorem Point.uncounted_leave (locked : Bool) (outcome : Except Error Loader) :
    (leave locked outcome).uncounted = false := by
  cases locked <;> rfl

/-- A call that has built has been counted. -/
@[simp] theorem Point.uncounted_built (locked : Bool) (outcome : Except Error Loader) :
    (built locked outcome).uncounted = false := by
  cases locked <;> cases outcome <;> rfl

/-- **A request is counted once**: it has still to be counted when it begins, until it is. -/
theorem Moves.counted {r : Registry} {holder : Option Thread} {stage next : Stage} {a : Action}
    (h : Moves b r holder stage a next) (hcaches : r.caches = true) :
    next.uncounted.toNat + a.counts.toNat = stage.uncounted.toNat + a.asks.toNat := by
  cases h with
  | start call =>
    rw [hcaches]
    cases call <;> rfl
  | absent enumerator root locked => cases locked <;> rfl
  | countHit enumerator root locked found =>
    show (Point.leave locked (.ok found)).uncounted.toNat + 1 = 1
    rw [Point.uncounted_leave]
    rfl
  | build call enumerator root locked id outcome =>
    show (Point.built locked outcome).uncounted.toNat + 0 = 0
    rw [Point.uncounted_built]
    rfl
  | _ => rfl

/-- The threads that make the accesses of a kind, in order. -/
def threadsOf (kind : Action → Bool) (events : List (Event Thread)) : List Thread :=
  (events.filter fun event => kind event.action).map Event.thread

/-- There are as many threads of a kind of access as there are such accesses. -/
theorem length_threadsOf (kind : Action → Bool) (events : List (Event Thread)) :
    (threadsOf kind events).length = events.countP fun event => kind event.action := by
  rw [threadsOf, List.length_map, List.countP_eq_length_filter]

/-- A further access adds its thread, if it is of the kind. -/
theorem threadsOf_append_singleton (kind : Action → Bool) (events : List (Event Thread))
    (event : Event Thread) :
    threadsOf kind (events ++ [event]) =
      threadsOf kind events ++ if kind event.action then [event.thread] else [] := by
  unfold threadsOf
  rw [List.filter_append, List.map_append]
  cases h : kind event.action <;> simp [h]

section Runs

variable [DecidableEq Thread] {start s s' : System Thread} {events : List (Event Thread)}
  {event : Event Thread}

/-- The thread of a further access counts once more, if the access is of the kind. -/
theorem count_threadsOf_self (kind : Action → Bool) (events : List (Event Thread))
    (event : Event Thread) :
    (threadsOf kind (events ++ [event])).count event.thread =
      (threadsOf kind events).count event.thread + (kind event.action).toNat := by
  rw [threadsOf_append_singleton, List.count_append]
  cases kind event.action <;> simp

/-- A further access does not count for another thread. -/
theorem count_threadsOf_of_ne (kind : Action → Bool) (events : List (Event Thread))
    (hne : t ≠ event.thread) :
    (threadsOf kind (events ++ [event])).count t = (threadsOf kind events).count t := by
  rw [threadsOf_append_singleton, List.count_append]
  cases kind event.action <;> simp [hne.symm]

/-- **Each thread has its requests counted**, but for the one that it is making. -/
theorem Run.counted (h : Run b start events s) (hcaches : start.registry.caches = true)
    (hidle : ∀ t, start.stage t = .idle) (t : Thread) :
    (s.stage t).uncounted.toNat + (threadsOf Action.counts events).count t =
      (threadsOf Action.asks events).count t := by
  induction h with
  | nil =>
    rw [hidle]
    rfl
  | @snoc events s s' event hrun hstep ih =>
    by_cases ht : t = event.thread
    · subst ht
      obtain ⟨next, hmoves, rfl⟩ := hstep.exists_moves
      have hone := hmoves.counted (hrun.caches_eq.trans hcaches)
      rw [stage_after_self, count_threadsOf_self, count_threadsOf_self]
      omega
    · rw [hstep.stage_of_ne ht, count_threadsOf_of_ne _ _ ht, count_threadsOf_of_ne _ _ ht, ih]

/-- **Hits and misses add up** to the requests, whenever no call is in progress. -/
theorem Run.countP_eq (h : Run b start events s) (hcaches : start.registry.caches = true)
    (hstart : ∀ t, start.stage t = .idle) (hidle : ∀ t, s.stage t = .idle) :
    (events.countP fun event => event.action.counts) =
      events.countP fun event => event.action.asks := by
  have hperm : (threadsOf Action.counts events).Perm (threadsOf Action.asks events) := by
    refine List.perm_iff_count.2 fun t => ?_
    rw [← h.counted hcaches hstart t, hidle]
    exact (Nat.zero_add _).symm
  rw [← length_threadsOf, ← length_threadsOf, hperm.length_eq]

/-- Hits and misses together go up by the requests that were counted. -/
theorem Run.hits_add_misses (h : Run b start events s) :
    s.registry.hits + s.registry.misses =
      start.registry.hits + start.registry.misses +
        events.countP fun event => event.action.counts := by
  induction h with
  | nil => rfl
  | @snoc events s s' event hrun hstep ih =>
    rw [hstep.registry_eq, counts_apply, ih, List.countP_append, List.countP_singleton,
      Nat.add_assoc]
    cases event.action.counts <;> rfl

end Runs

/-! ## Main statement -/

/-- Whether nothing has happened yet, or the loader of a key was taken out last. -/
def Cleared (key : LoaderKey) (events : List (Event Thread)) : Prop :=
  events = [] ∨ ∃ earlier event, events = earlier ++ [event] ∧ event.action.Removes key

section Runs

variable [DecidableEq Thread]

/-- What is known of a registry that keeps loaders, after what threads have done to it. -/
structure SingleFlight (r : Registry) (events : List (Event Thread)) (s : System Thread) :
    Prop where
  /-- An insertion never replaces a loader that is kept. -/
  keeps_fresh : ∀ before after t key loader, events = before ++ ⟨t, .keep key loader⟩ :: after →
    (replay r before).loaders[key]? = none
  /-- Between two removals of a key at most one loader is inserted for it, and whoever finds or
  inserts one has that one. -/
  kept_once : ∀ before period after key, events = before ++ period ++ after →
    Cleared key before → (∀ event ∈ period, ¬event.action.Removes key) →
      ∃ kept : Option Loader, keptIn key period = kept.toList ∧
        ∀ event ∈ period, ∀ loader, event.action.decided? = some (key, loader) →
          kept = some loader
  /-- A request that returns a loader has since it began found or inserted that one for its key,
  and no other. -/
  answered : ∀ before after t enumerator root loader,
    events = before ++ ⟨t, .answer (.get enumerator root) (.loader (.ok loader))⟩ :: after →
      ∃ during, Began t (.get enumerator root) during before ∧
        decisions t during = [(.of enumerator.contextId root, loader)]
  /-- The loaders that were built bear numbers of their own, -/
  ids : ((allBuilt events).map Loader.id).Nodup
  /-- and no others are returned. -/
  built : ∀ event ∈ events, ∀ call loader,
    event.action = .answer call (.loader (.ok loader)) → loader ∈ allBuilt events
  /-- Whenever no call is in progress, hits and misses add up to the requests made. -/
  counted : (∀ t, s.stage t = .idle) →
    s.registry.hits + s.registry.misses = events.countP fun event => event.action.asks

/-- After a removal, as at the beginning, nothing is kept for the key. -/
theorem Run.getElem?_of_cleared {r : Registry} {events : List (Event Thread)}
    {s : System Thread} (h : Run b (System.quiet Thread r) events s)
    (hempty : (System.quiet Thread r).registry.loaders = ∅) (hcleared : Cleared key events) :
    s.registry.loaders[key]? = none := by
  rw [h.registry_eq]
  obtain rfl | ⟨earlier, event, rfl, hevent⟩ := hcleared
  · show (System.quiet Thread r).registry.loaders[key]? = none
    simp [hempty]
  · rw [replay_append_singleton, getElem?_apply]
    obtain ⟨loader, haction⟩ | haction := hevent
    · rw [haction]
      exact if_pos rfl
    · rw [haction]

/-- **Single flight.** Any number of threads call a new registry that keeps loaders; their accesses
come in any order, and any build may fail. -/
theorem single_flight {settings : Settings} (hcache : settings.cache = true)
    {enumerator : Enumerator} {factories : FactoryTable} {events : List (Event Thread)}
    {s : System Thread}
    (h : Run b (System.quiet Thread (create settings enumerator factories)) events s) :
    SingleFlight (create settings enumerator factories) events s := by
  generalize hr : create settings enumerator factories = r at h
  have hcaches : (System.quiet Thread r).registry.caches = true := by rw [← hr]; exact hcache
  have hempty : (System.quiet Thread r).registry.loaders = ∅ := by rw [← hr]; rfl
  have hidle : ∀ t, (System.quiet Thread r).stage t = .idle := fun _ => rfl
  refine ⟨?_, ?_, ?_, ?_, ?_, ?_⟩
  · rintro before after t key loader rfl
    obtain ⟨m, m', hbefore, hstep, -⟩ := h.cut
    have hnone := (hbefore.guarded (guarded_quiet r)).absent_of_keep hstep rfl
    rwa [hbefore.registry_eq] at hnone
  · rintro before period after key rfl hcleared hremoves
    obtain ⟨last, hrun, -⟩ := h.split
    obtain ⟨m, hbefore, hperiod⟩ := hrun.split
    have hnone := hbefore.getElem?_of_cleared hempty hcleared
    exact ⟨_, hperiod.keptIn_eq (hbefore.guarded (guarded_quiet r)) hnone hremoves⟩
  · rintro before after t enumerator root loader rfl
    obtain ⟨m, m', hbefore, hstep, -⟩ := h.cut
    exact hbefore.exists_began_of_answer hcaches (hidle t) hstep
  · exact (run_accounted hempty h).2.1.nodup
  · rintro event hevent call loader haction
    obtain ⟨before, after, rfl⟩ := List.append_of_mem hevent
    obtain ⟨m, m', hbefore, hstep, -⟩ := h.cut
    obtain ⟨next, hmoves, -⟩ := hstep.exists_moves
    rw [haction] at hmoves
    have hbuilt := (run_accounted hempty hbefore).2.2.carried _ _ _ loader
      hmoves.stage_of_answer rfl
    unfold allBuilt
    rw [List.filterMap_append]
    exact List.mem_append_left _ hbuilt
  · intro hdone
    rw [h.hits_add_misses, ← h.countP_eq hcaches hidle hdone, ← hr]
    exact Nat.zero_add _

end Runs

/-! ## Two requests at once -/

/-- Two threads ask for the loader of a root. While the first builds it, the other finds none and
waits for the build lock. -/
def askedAtOnce (enumerator : Enumerator) (root : String) (id : Nat) (loader : Loader) :
    List (Event Bool) :=
  let call := Call.get enumerator root
  let key := LoaderKey.of enumerator.contextId root
  [⟨false, .start call⟩, ⟨false, .look key none⟩, ⟨false, .acquire⟩, ⟨false, .look key none⟩,
    ⟨false, .countMiss⟩, ⟨false, .number id⟩, ⟨true, .start call⟩, ⟨true, .look key none⟩,
    ⟨false, .build id (.ok loader)⟩, ⟨false, .keep key loader⟩, ⟨false, .release⟩,
    ⟨true, .acquire⟩, ⟨true, .look key (some loader)⟩, ⟨true, .countHit⟩, ⟨true, .release⟩,
    ⟨true, .answer call (.loader (.ok loader))⟩, ⟨false, .answer call (.loader (.ok loader))⟩]

/-- Of two requests at once only one inserts a loader. -/
theorem keptIn_askedAtOnce (enumerator : Enumerator) (root : String) (id : Nat) (loader : Loader) :
    keptIn (.of enumerator.contextId root) (askedAtOnce enumerator root id loader) = [loader] := by
  simp [keptIn, askedAtOnce, Action.kept?]

/-- One thread builds, and both have the loader. -/
theorem run_askedAtOnce {r : Registry} (hcaches : r.caches = true) {enumerator : Enumerator}
    {root : String} (hnone : r.loaders[LoaderKey.of enumerator.contextId root]? = none)
    (hbuild : b.comesTo r.nextId enumerator (normalizeRoot root) (.ok loader)) :
    ∃ s, Run b (System.quiet Bool r) (askedAtOnce enumerator root r.nextId loader) s ∧
      (∀ t, s.stage t = .idle) ∧ s.registry.hits = r.hits + 1 ∧
      s.registry.misses = r.misses + 1 := by
  have hbuilding := run_to_building (b := b) (s := System.quiet Bool r) (t := false) hcaches rfl
    rfl hnone
  have hwaiting := hbuilding.append ((run_begin (t := true) hcaches rfl enumerator root).goesOn
    (.absent enumerator root false hnone))
  have hbuilt := (hwaiting.turn false _ rfl).goesOn
    (.build (.get enumerator root) enumerator root true r.nextId (.ok loader) rfl hbuild)
  have hreleased := (hbuilt.goesOn (.keep enumerator root loader)).goesOn
    (.release _ (.ok loader))
  have hlooking := (hreleased.turn true _ rfl).goesOn (.acquire enumerator root rfl)
  have hfound := hlooking.goesOn (.found enumerator root true loader
    ((getElem?_insert_loader _ _ _ _).trans (if_pos rfl)))
  have hanswered := ((hfound.goesOn (.countHit enumerator root true loader)).goesOn
    (.release _ (.ok loader))).goesOn (.answer _ _)
  have hdone := (hanswered.turn false _ rfl).goesOn (.answer _ _)
  refine ⟨_, hdone, ?_, rfl, rfl⟩
  intro t
  cases t <;> rfl

/-- Where nothing is configured a build succeeds. -/
theorem exists_build_emptyEnumerator :
    ∃ loader, (Builder.files plainRegistry.options).comesTo 0 emptyEnumerator
      (normalizeRoot "a") (.ok loader) := by
  have hbuilds : (Loader.build 0 emptyEnumerator ⟨[], ∅, ∅⟩ (normalizeRoot "a")
      plainRegistry.options).outcome.toOption.isSome = true := by decide +kernel
  obtain ⟨loader, hloader⟩ := Option.isSome_iff_exists.1 hbuilds
  exact ⟨loader, ⟨[], ∅, ∅⟩, ok_of_toOption hloader⟩

/-- So it goes where nothing is configured: one of two threads builds the loader that both have. -/
theorem single_flight_askedAtOnce :
    Settings.default.cache = true ∧ ∃ loader s,
      Run (Builder.files plainRegistry.options) (System.quiet Bool plainRegistry)
        (askedAtOnce emptyEnumerator "a" 0 loader) s ∧
      SingleFlight plainRegistry (askedAtOnce emptyEnumerator "a" 0 loader) s ∧
      (∀ t, s.stage t = .idle) ∧ s.registry.hits = 1 ∧ s.registry.misses = 1 ∧
      keptIn (.of emptyEnumerator.contextId "a") (askedAtOnce emptyEnumerator "a" 0 loader) =
        [loader] := by
  obtain ⟨loader, hbuild⟩ := exists_build_emptyEnumerator
  obtain ⟨s, hrun, hidle, hhits, hmisses⟩ :=
    run_askedAtOnce (r := plainRegistry) rfl Std.ExtTreeMap.getElem?_empty hbuild
  exact ⟨rfl, loader, s, hrun, single_flight rfl hrun, hidle, hhits, hmisses,
    keptIn_askedAtOnce _ _ _ _⟩

end Wiring.Registry
