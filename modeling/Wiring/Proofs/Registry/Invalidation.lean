import Wiring.Proofs.Registry.SingleFlight

/-!
# Registries · Loaders that come after their removal

A loader is removed from the table without the build lock, so that one that is being built for the
same key at that time is inserted afterwards, and handed out to all who ask from then on. Whether a
loader was on its way before a removal is told by its number, which is taken when its building
begins. Main statement: a loader whose number was taken before the removal began can be returned to
a request that starts after the removal has returned exactly where a thread is just building one
with which it succeeds, or about to insert it, for the key; where a loader is kept, there is no such
thread (`returnsStale_iff`).
-/

namespace Wiring.Registry

variable {Thread : Type} {b : Builder} {t u : Thread} {key : LoaderKey} {n : Nat}

/-! ## Loaders on their way -/

/-- Whether a request can still come to insert a loader with a number below a bound. -/
def Point.Brings (b : Builder) (n : Nat) (enumerator : Enumerator) (root : String) : Point → Prop
  | .building true id =>
    id < n ∧ ∃ loader, b.comesTo id enumerator (normalizeRoot root) (.ok loader)
  | .keeping loader => loader.id < n
  | _ => False

/-- Whether a thread can still come to insert, for a key, a loader with a number below a bound. -/
def System.Brings (b : Builder) (n : Nat) (key : LoaderKey) (s : System Thread) : Prop :=
  ∃ t enumerator root point, s.stage t = .busy (.get enumerator root) point ∧
    LoaderKey.of enumerator.contextId root = key ∧ point.Brings b n enumerator root

/-- Who can still insert a loader has seen, with the build lock, that none is kept. -/
theorem Point.claims_of_brings {enumerator : Enumerator} {root : String} {point : Point}
    (h : point.Brings b n enumerator root) : point.claims = true := by
  cases point with
  | building locked id =>
    cases locked
    · exact absurd h not_false
    · rfl
  | keeping loader => rfl
  | _ => exact absurd h not_false

/-- Where a loader is kept for a key, none is on its way. -/
theorem Guarded.not_brings {s : System Thread} (h : Guarded s) {loader : Loader}
    (hkept : s.registry.loaders[key]? = some loader) : ¬s.Brings b n key := by
  rintro ⟨t, enumerator, root, point, hbusy, rfl, hbrings⟩
  have hnone := h.absent t enumerator root point hbusy (Point.claims_of_brings hbrings)
  rw [hkept] at hnone
  cases hnone

/-- Numbers that are taken from now on are not below the bound, so that whoever brings such a
loader did so before. -/
theorem Moves.exists_brings {r : Registry} {holder : Option Thread} {stage : Stage} {a : Action}
    {enumerator : Enumerator} {root : String} {point : Point}
    (h : Moves b r holder stage a (.busy (.get enumerator root) point)) (hn : n ≤ r.nextId)
    (hbrings : point.Brings b n enumerator root) :
    ∃ before, stage = .busy (.get enumerator root) before ∧
      before.Brings b n enumerator root := by
  cases h with
  | start => cases hcaches : r.caches <;> simp [Call.entry, hcaches, Point.Brings] at hbrings
  | absent enumerator root locked => cases locked <;> exact absurd hbrings not_false
  | countHit enumerator root locked => cases locked <;> exact absurd hbrings not_false
  | number call locked =>
    cases locked
    · exact absurd hbrings not_false
    · exact absurd hbrings.1 (Nat.not_lt.2 hn)
  | build call enumerator' root' locked id outcome hasked hbuild =>
    obtain ⟨rfl, rfl⟩ := Prod.mk.inj (Option.some.inj hasked)
    cases locked
    · cases outcome <;> exact absurd hbrings not_false
    · cases outcome with
      | error e => exact absurd hbrings not_false
      | ok loader =>
        have hlt : loader.id < n := hbrings
        rw [b.id_eq hbuild] at hlt
        exact ⟨_, rfl, hlt, loader, hbuild⟩
  | _ => exact absurd hbrings not_false

/-! ## Removals -/

/-- Whether a call has the loader of a key forgotten. -/
def Call.Forgets (key : LoaderKey) : Call → Prop
  | invalidate forgotten => forgotten = key
  | clear => True
  | _ => False

section Moves

variable {r : Registry} {holder : Option Thread} {call : Call}

/-- A call that has a loader forgotten begins with its removal. -/
theorem Call.Forgets.entry_eq (h : call.Forgets key) (caches : Bool) :
    call.entry caches = .removing := by
  cases call with
  | invalidate forgotten => rfl
  | clear => rfl
  | _ => exact absurd h not_false

/-- A removal can always be made. -/
theorem Call.Forgets.exists_moves (h : call.Forgets key) (r : Registry) (holder : Option Thread) :
    ∃ a answer, Moves b r holder (.busy call .removing) a (.busy call (.answering answer)) := by
  cases call with
  | invalidate forgotten => exact ⟨_, _, .invalidate forgotten⟩
  | clear => exact ⟨_, _, .clear⟩
  | _ => exact absurd h not_false

/-- After a removal nothing is kept for the key. -/
theorem Moves.getElem?_of_removing {a : Action} {next : Stage}
    (h : Moves b r holder (.busy call .removing) a next) (hcall : call.Forgets key) :
    (a.apply r).loaders[key]? = none := by
  cases h with
  | invalidate forgotten =>
    rw [getElem?_apply]
    exact if_pos (Eq.symm hcall)
  | clear => rw [getElem?_apply]

end Moves

/-! ## Runs -/

section Runs

variable [DecidableEq Thread] {start s s' : System Thread} {events : List (Event Thread)}
  {event : Event Thread} {call : Call}

/-- Whether no loader with a number below a bound can come to be kept for a key any more, unless
one is kept already. -/
structure Past (b : Builder) (n : Nat) (key : LoaderKey) (s : System Thread) : Prop where
  /-- All numbers below the bound are taken, -/
  le_nextId : n ≤ s.registry.nextId
  /-- and nothing with such a number is on its way. -/
  not_brings : ¬s.Brings b n key

/-- Once no old loader can come to be kept, none can after a further access. -/
theorem Past.step (h : Past b n key s) (hstep : Step b s event s') : Past b n key s' := by
  obtain ⟨next, hmoves, rfl⟩ := hstep.exists_moves
  refine ⟨h.le_nextId.trans (nextId_le_apply _ _), ?_⟩
  rintro ⟨t, enumerator, root, point, hbusy, hkey, hbrings⟩
  obtain ⟨rfl, rfl⟩ | ⟨-, hbefore⟩ := stage_after_cases hbusy
  · obtain ⟨before, hbefore, hbrought⟩ := hmoves.exists_brings h.le_nextId hbrings
    exact h.not_brings ⟨_, enumerator, root, before, hbefore, hkey, hbrought⟩
  · exact h.not_brings ⟨t, enumerator, root, point, hbefore, hkey, hbrings⟩

/-- Whether a loader that is kept for a key has a number not below a bound. -/
def Fresh (n : Nat) (key : LoaderKey) (s : System Thread) : Prop :=
  ∀ loader, s.registry.loaders[key]? = some loader → n ≤ loader.id

/-- Once no old loader can come to be kept, one that is kept stays a fresh one. -/
theorem Past.fresh_step (h : Past b n key s) (hfresh : Fresh n key s)
    (hstep : Step b s event s') : Fresh n key s' := by
  intro loader hkept
  rw [hstep.registry_eq] at hkept
  obtain hbefore | haction := getElem?_apply_eq_some _ _ hkept
  · exact hfresh loader hbefore
  · obtain ⟨next, hmoves, -⟩ := hstep.exists_moves
    rw [haction] at hmoves
    obtain ⟨enumerator, root, hbusy, hkey⟩ := hmoves.exists_keeping
    exact Nat.not_lt.1 fun hlt => h.not_brings ⟨_, enumerator, root, _, hbusy, hkey, hlt⟩

/-- Once no old loader is kept or can come to be, it stays so in every run. -/
theorem Run.past_and_fresh (h : Run b start events s) (hpast : Past b n key start)
    (hfresh : Fresh n key start) : Past b n key s ∧ Fresh n key s :=
  h.invariant (P := fun s => Past b n key s ∧ Fresh n key s) ⟨hpast, hfresh⟩
    fun _ _ _ hs hstep => ⟨hs.1.step hstep, hs.1.fresh_step hs.2 hstep⟩

/-- A removal leaves what a thread does to other threads. -/
theorem Run.past_and_removing (h : Run b start events s) (hpast : Past b n key start)
    (hcall : call.Forgets key) (hremoving : start.stage u = .busy call .removing) :
    Past b n key s ∧ (s.stage u = .busy call .removing ∨ Fresh n key s) := by
  refine h.invariant
    (P := fun s => Past b n key s ∧ (s.stage u = .busy call .removing ∨ Fresh n key s))
    ⟨hpast, .inl hremoving⟩ ?_
  rintro s event s' ⟨hpast, hstage | hfresh⟩ hstep
  · refine ⟨hpast.step hstep, ?_⟩
    by_cases hu : u = event.thread
    · subst hu
      obtain ⟨next, hmoves, rfl⟩ := hstep.exists_moves
      rw [hstage] at hmoves
      refine .inr fun loader hkept => ?_
      have hnone : (event.action.apply s.registry).loaders[key]? = none :=
        hmoves.getElem?_of_removing hcall
      exact absurd (hnone.symm.trans hkept) nofun
    · exact .inl (by rw [hstep.stage_of_ne hu, hstage])
  · exact ⟨hpast.step hstep, .inr (hpast.fresh_step hfresh hstep)⟩

/-- What is found or inserted while nothing comes with a number below a bound has none. -/
theorem Run.le_id_of_decided (h : Run b start events s) (hpast : Past b n key start)
    (hfresh : Fresh n key start) (hevent : event ∈ events) {loader : Loader}
    (hdecided : event.action.decided? = some (key, loader)) : n ≤ loader.id := by
  obtain ⟨before, after, rfl⟩ := List.append_of_mem hevent
  obtain ⟨m, m', hbefore, hstep, -⟩ := h.cut
  obtain ⟨hpast', hfresh'⟩ := hbefore.past_and_fresh hpast hfresh
  obtain ⟨next, hmoves, -⟩ := hstep.exists_moves
  refine hpast'.fresh_step hfresh' hstep loader ?_
  rw [hstep.registry_eq]
  exact hmoves.kept_of_decided hdecided

/-- A loader that can still come to be inserted is inserted where no other thread comes in
between. -/
theorem System.Brings.exists_run (h : s.Brings b n key) :
    ∃ (events : List (Event Thread)) (s' : System Thread) (enumerator : Enumerator)
      (root : String) (loader : Loader), Run b s events s' ∧
      LoaderKey.of enumerator.contextId root = key ∧ loader.id < n ∧
      s'.registry.loaders[key]? = some loader ∧ s'.registry.caches = s.registry.caches ∧
      ∀ t, s.stage t = .idle → s'.stage t = .idle := by
  obtain ⟨t, enumerator, root, point, hbusy, rfl, hbrings⟩ := h
  have hidle (stage : Stage) (r : Registry) (holder : Option Thread) (u : Thread)
      (hu : s.stage u = .idle) : (s.set t r holder stage).stage u = .idle := by
    refine (if_neg ?_).trans hu
    rintro rfl
    rw [hbusy] at hu
    cases hu
  have hinserted (r : Registry) (loader : Loader) :
      (r.keep (.of enumerator.contextId root) loader).loaders[LoaderKey.of
        enumerator.contextId root]? = some loader :=
    (getElem?_insert_loader _ _ _ _).trans (if_pos rfl)
  have hhere := Run.nil.turn (b := b) t _ hbusy
  cases point with
  | building locked id =>
    cases locked with
    | false => exact absurd hbrings not_false
    | true =>
      obtain ⟨hlt, loader, hbuild⟩ := hbrings
      have hrun := (hhere.goesOn (.build (.get enumerator root) enumerator root true id
        (.ok loader) rfl hbuild)).goesOn (.keep enumerator root loader)
      exact ⟨_, _, enumerator, root, loader, hrun, rfl, (b.id_eq hbuild).trans_lt hlt,
        hinserted _ loader, rfl, hidle _ _ _⟩
  | keeping loader =>
    have hrun := hhere.goesOn (.keep enumerator root loader)
    exact ⟨_, _, enumerator, root, loader, hrun, rfl, hbrings, hinserted _ loader, rfl,
      hidle _ _ _⟩
  | _ => exact absurd hbrings not_false

/-! ## Main statement -/

/-- Whether a call returns and a request for the loader of a key that starts afterwards is answered
with one whose number is below a bound. -/
def ReturnsStale (u : Thread) (call : Call) (key : LoaderKey) (n : Nat)
    (later : List (Event Thread)) : Prop :=
  ∃ first answer second t enumerator root third loader,
    later = first ++ ⟨u, .answer call answer⟩ :: (second ++
      ⟨t, .start (.get enumerator root)⟩ :: (third ++
        [⟨t, .answer (.get enumerator root) (.loader (.ok loader))⟩])) ∧
    LoaderKey.of enumerator.contextId root = key ∧ loader.id < n

/-- A loader that is returned too late was on its way before the removal. -/
theorem Run.brings_of_returnsStale {later : List (Event Thread)} (h : Run b s later s')
    (hle : n ≤ s.registry.nextId) (hcaches : s.registry.caches = true)
    (hcall : call.Forgets key) (hremoving : s.stage u = .busy call .removing)
    (hstale : ReturnsStale u call key n later) : s.Brings b n key := by
  by_contra hnone
  obtain ⟨first, answer, second, t, enumerator, root, third, loader, rfl, rfl, hlt⟩ := hstale
  obtain ⟨m₁, m₂, hfirst, hanswer, hrest⟩ := h.cut
  obtain ⟨m₃, hsecond, hrest⟩ := hrest.split
  rw [← List.cons_append] at hrest
  obtain ⟨m₄, hrequest, hreturn⟩ := hrest.last
  -- what is kept when the removal has returned has come after it began
  obtain ⟨hpast, hstage⟩ := hfirst.past_and_removing ⟨hle, hnone⟩ hcall hremoving
  have hfresh : Fresh n (.of enumerator.contextId root) m₁ := by
    obtain ⟨next, hmoves, -⟩ := hanswer.exists_moves
    refine hstage.resolve_left fun hstill => ?_
    rw [hmoves.stage_of_answer] at hstill
    cases hstill
  have hreturned : Run b m₁ ([] ++ [⟨u, .answer call answer⟩] ++ second) m₃ :=
    (Run.nil.snoc hanswer).append hsecond
  obtain ⟨hpast, hfresh⟩ := hreturned.past_and_fresh hpast hfresh
  -- and so has what the request finds or inserts
  have hidle : m₃.stage t = .idle := by
    obtain ⟨m, hstart, -⟩ := hrequest.uncons
    obtain ⟨next, hmoves, -⟩ := hstart.exists_moves
    exact hmoves.eq_of_start.1
  have hcaches₃ : m₃.registry.caches = true := by
    rw [hreturned.caches_eq, hfirst.caches_eq, hcaches]
  obtain ⟨during, ⟨⟨earlier, hevents⟩, -⟩, hdecisions⟩ :=
    hrequest.exists_began_of_answer hcaches₃ hidle hreturn
  obtain ⟨event, hevent, -, hdecided⟩ :=
    exists_of_mem_decisions (hdecisions ▸ List.mem_singleton_self _)
  rw [hevents] at hrequest
  have hmem : event ∈ earlier ++ ⟨t, .start (.get enumerator root)⟩ :: during :=
    List.mem_append_right _ (List.mem_cons_of_mem _ hevent)
  exact absurd hlt (Nat.not_lt.2 (hrequest.le_id_of_decided hpast hfresh hmem hdecided))

/-- What is on its way can be inserted after the removal has returned, and is then handed out. -/
theorem System.Brings.exists_returnsStale (h : s.Brings b n key)
    (hcaches : s.registry.caches = true) (hcall : call.Forgets key)
    (hremoving : s.stage u = .busy call .removing) :
    ∃ later s', Run b s later s' ∧ ReturnsStale u call key n later := by
  obtain ⟨a, answer, hmoves⟩ := hcall.exists_moves (b := b) s.registry s.holder
  have hreturned := ((Run.nil.turn u _ hremoving).goesOn hmoves).goesOn (.answer call answer)
  -- the other thread is still where it was
  obtain ⟨t, enumerator, root, point, hbusy, hkey, hbrings⟩ := h
  have hne : t ≠ u := by
    rintro rfl
    rw [hbusy] at hremoving
    cases hremoving
    exact hbrings
  have hstill : (s.set u (a.apply s.registry) (a.lock u s.holder) .idle).Brings b n key :=
    ⟨t, enumerator, root, point, (if_neg hne).trans hbusy, hkey, hbrings⟩
  obtain ⟨events, s', enumerator, root, loader, hrun, rfl, hlt, hkept, hcaches', hidle⟩ :=
    hstill.exists_run
  have hget := run_get_of_kept (b := b)
    (hcaches'.trans ((caches_apply a s.registry).trans hcaches)) (hidle u (if_pos rfl)) hkept
  exact ⟨_, _, (hreturned.append hrun).append hget, [⟨u, a⟩], answer, events, u, enumerator, root,
    [⟨u, .look (.of enumerator.contextId root) (some loader)⟩, ⟨u, .countHit⟩], loader,
    by simp, rfl, hlt⟩

/-- **Loaders that come after their removal.** In a registry that keeps loaders, a thread has a
loader forgotten, and has come to the removal. A request for the same key that starts after the call
has returned can be answered with a loader whose number was taken before the call began, exactly
where a thread is just building one with which it succeeds, or about to insert it; and there nothing
is kept that could be removed. -/
theorem returnsStale_iff {settings : Settings} (hcache : settings.cache = true)
    {enumerator : Enumerator} {factories : FactoryTable} {before during : List (Event Thread)}
    (h : Run b (System.quiet Thread (create settings enumerator factories))
      (before ++ ⟨u, .start call⟩ :: during) s)
    (hcall : call.Forgets key) (hduring : ∀ event ∈ during, event.thread ≠ u)
    (hn : n = (replay (create settings enumerator factories) before).nextId) :
    ((∃ later s', Run b s later s' ∧ ReturnsStale u call key n later) ↔ s.Brings b n key) ∧
      ((∃ loader, s.registry.loaders[key]? = some loader) → ¬s.Brings b n key) := by
  generalize hr : create settings enumerator factories = r at h hn
  have hcaches : s.registry.caches = true := by
    rw [h.caches_eq, ← hr]
    exact hcache
  have hguarded : Guarded s := h.guarded (guarded_quiet r)
  obtain ⟨m₁, m₂, hbefore, hstart, hothers⟩ := h.cut
  have hremoving : s.stage u = .busy call .removing := by
    rw [hothers.stage_eq hduring]
    obtain ⟨next, hmoves, rfl⟩ := hstart.exists_moves
    rw [stage_after_self, hmoves.eq_of_start.2, hcall.entry_eq]
  have hle : n ≤ s.registry.nextId := by
    have hbegun : m₁.registry.nextId = n := by
      rw [hn, hbefore.registry_eq]
      rfl
    exact hbegun ▸ hstart.nextId_le.trans hothers.nextId_le
  refine ⟨⟨?_, ?_⟩, ?_⟩
  · rintro ⟨later, s', hlater, hstale⟩
    exact hlater.brings_of_returnsStale hle hcaches hcall hremoving hstale
  · intro hbrings
    exact hbrings.exists_returnsStale hcaches hcall hremoving
  · rintro ⟨loader, hkept⟩
    exact hguarded.not_brings hkept

end Runs

/-! ## A removal that is overtaken -/

/-- A thread has built the loader of a root and is about to insert it. -/
def halfBuilt (enumerator : Enumerator) (root : String) (id : Nat) (loader : Loader) :
    List (Event Bool) :=
  let key := LoaderKey.of enumerator.contextId root
  [⟨false, .start (.get enumerator root)⟩, ⟨false, .look key none⟩, ⟨false, .acquire⟩,
    ⟨false, .look key none⟩, ⟨false, .countMiss⟩, ⟨false, .number id⟩,
    ⟨false, .build id (.ok loader)⟩]

/-- Another thread begins to have the loader forgotten. -/
theorem run_halfBuilt {r : Registry} (hcaches : r.caches = true) {enumerator : Enumerator}
    {root : String} {loader : Loader}
    (hnone : r.loaders[LoaderKey.of enumerator.contextId root]? = none)
    (hbuild : b.comesTo r.nextId enumerator (normalizeRoot root) (.ok loader)) :
    ∃ s, Run b (System.quiet Bool r) (halfBuilt enumerator root r.nextId loader ++
        [⟨true, .start (.invalidate (.of enumerator.contextId root))⟩]) s ∧
      s.registry.caches = true ∧
      s.stage true = .busy (.invalidate (.of enumerator.contextId root)) .removing ∧
      s.Brings b (r.nextId + 1) (.of enumerator.contextId root) := by
  have hbuilding := run_to_building (b := b) (s := System.quiet Bool r) (t := false) hcaches rfl
    rfl hnone
  have hkeeping := hbuilding.goesOn
    (.build (.get enumerator root) enumerator root true r.nextId (.ok loader) rfl hbuild)
  have hremoving := (hkeeping.turn true .idle rfl).goesOn
    (.start (.invalidate (.of enumerator.contextId root)))
  have hlt : loader.id < r.nextId + 1 := by
    rw [b.id_eq hbuild]
    exact Nat.lt_succ_self _
  exact ⟨_, hremoving, hcaches, rfl, false, enumerator, root, .keeping loader, rfl, rfl, hlt⟩

/-- The loader that was built before can be returned after its removal. -/
theorem returnsStale_iff_halfBuilt :
    ∃ loader s, Settings.default.cache = true ∧
      Run (Builder.files plainRegistry.options) (System.quiet Bool plainRegistry)
        (halfBuilt emptyEnumerator "a" 0 loader ++
          [⟨true, .start (.invalidate (.of "test" "a"))⟩]) s ∧
      (((∃ later s', Run (Builder.files plainRegistry.options) s later s' ∧
          ReturnsStale true (.invalidate (.of "test" "a")) (.of "test" "a") 1 later) ↔
        s.Brings (Builder.files plainRegistry.options) 1 (.of "test" "a")) ∧
        ((∃ loader, s.registry.loaders[LoaderKey.of "test" "a"]? = some loader) →
          ¬s.Brings (Builder.files plainRegistry.options) 1 (.of "test" "a"))) ∧
      s.Brings (Builder.files plainRegistry.options) 1 (.of "test" "a") := by
  obtain ⟨loader, hbuild⟩ := exists_build_emptyEnumerator
  obtain ⟨s, hrun, -, -, hbrings⟩ :=
    run_halfBuilt (r := plainRegistry) rfl Std.ExtTreeMap.getElem?_empty hbuild
  exact ⟨loader, s, rfl, hrun, returnsStale_iff rfl hrun rfl (by simp) rfl, hbrings⟩

/-- Whether no request for a key that starts after a removal has returned is answered with a loader
whose number was taken before the removal began. -/
def RemovalsLast (Thread : Type) [DecidableEq Thread] (b : Builder) (r : Registry) : Prop :=
  ∀ (before later : List (Event Thread)) (s : System Thread) (u : Thread) (call : Call)
    (key : LoaderKey), Run b (System.quiet Thread r) (before ++ ⟨u, .start call⟩ :: later) s →
    call.Forgets key → ¬ReturnsStale u call key (replay r before).nextId later

/-- A removal is overtaken by a loader that is being built. It also misses one whose key differs
from what its root is brought to when it is asked for: of the two keys in play only one is
forgotten. -/
theorem removal_overtaken :
    ¬RemovalsLast Bool (Builder.files plainRegistry.options) plainRegistry ∧
      ((plainRegistry.run [bare, .invalidate (.of "test" "/ a")]).get emptyEnumerator ⟨[], ∅, ∅⟩
        (LoaderKey.of "test" "/ a").root).2.outcome.toOption.map Loader.id = some 0 ∧
      ((plainRegistry.run [slashBlank, .invalidate ⟨"test", "a/"⟩]).get emptyEnumerator
        ⟨[], ∅, ∅⟩ "/ a").2.outcome.toOption.map (fun loader => (loader.id, loader.key)) =
          some (0, ⟨"test", "a/"⟩) := by
  refine ⟨?_, by decide +kernel, by decide +kernel⟩
  intro hlast
  obtain ⟨loader, hbuild⟩ := exists_build_emptyEnumerator
  obtain ⟨s, hrun, hcaches, hremoving, hbrings⟩ :=
    run_halfBuilt (r := plainRegistry) rfl Std.ExtTreeMap.getElem?_empty hbuild
  have hforgets : (Call.invalidate (.of emptyEnumerator.contextId "a")).Forgets
      (.of emptyEnumerator.contextId "a") := rfl
  obtain ⟨later, s', hlater, hstale⟩ := hbrings.exists_returnsStale hcaches hforgets hremoving
  have hall := hrun.append hlater
  rw [List.append_assoc] at hall
  exact hlast _ later s' true _ _ hall hforgets hstale

end Wiring.Registry
