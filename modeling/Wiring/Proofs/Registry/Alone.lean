import Wiring.Proofs.Registry.Threads

/-!
# Registries · A thread that is alone

The accesses of a call are a request taken apart: where no other thread comes in between, they lead
to the registry that the request leads to, and the call is answered as the request is
(`exists_run_of_request`). A kept loader can be asked for even while another thread has the build
lock (`run_get_of_kept`).
-/

namespace Wiring.Registry

/-- Building loaders from files, whatever these are by then. -/
def Builder.files (options : LoaderOptions) : Builder where
  comesTo id enumerator root outcome :=
    ∃ tree, (Loader.build id enumerator tree root options).outcome = outcome
  id_eq := by
    rintro id enumerator root loader ⟨tree, h⟩
    exact Loader.id_of_build h

variable {Thread : Type} [DecidableEq Thread] {b : Builder} {start s : System Thread}
  {events : List (Event Thread)} {t : Thread} {r : Registry} {holder : Option Thread}
  {stage next : Stage}

/-! ## Going on -/

/-- The system in which a thread alone has gone on. -/
def System.set (s : System Thread) (t : Thread) (r : Registry) (holder : Option Thread)
    (stage : Stage) : System Thread :=
  ⟨r, holder, fun u => if u = t then stage else s.stage u⟩

/-- A thread that has not gone on leaves the system as it is. -/
theorem System.set_self (h : s.stage t = stage) :
    s.set t s.registry s.holder stage = s := by
  obtain ⟨r, holder, stages⟩ := s
  obtain rfl : stages t = stage := h
  unfold set
  congr 1
  funext u
  by_cases hu : u = t
  · rw [if_pos hu, hu]
  · exact if_neg hu

/-- A thread that has gone on makes its next access. -/
theorem Run.goesOn (h : Run b start events (s.set t r holder stage)) {a : Action}
    (hmoves : Moves b r holder stage a next) :
    Run b start (events ++ [⟨t, a⟩]) (s.set t (a.apply r) (a.lock t holder) next) := by
  have hstage : (s.set t r holder stage).stage t = stage := if_pos rfl
  have hstep := Step.intro (b := b) (s := s.set t r holder stage) ⟨t, a⟩ next (by rwa [hstage])
  have hsame : (s.set t r holder stage).after ⟨t, a⟩ next =
      s.set t (a.apply r) (a.lock t holder) next := by
    unfold System.after System.set
    congr 1
    funext u
    by_cases hu : u = t
    · simp only [if_pos hu]
    · simp only [if_neg hu]
  exact hsame ▸ h.snoc hstep

/-- A thread is where it has come to, and may go on from there. -/
theorem Run.turn (h : Run b start events s) (t : Thread) (stage : Stage)
    (hstage : s.stage t = stage) :
    Run b start events (s.set t s.registry s.holder stage) := by
  rwa [System.set_self hstage]

/-- A thread that is idle makes its first access. -/
theorem run_start (hidle : s.stage t = .idle) (call : Call) :
    Run b s [⟨t, .start call⟩]
      (s.set t s.registry s.holder (.busy call (call.entry s.registry.caches))) :=
  (Run.nil.turn t .idle hidle).goesOn (.start call)

/-- A thread that is idle begins to look for a loader. -/
theorem run_begin (hcaches : s.registry.caches = true) (hidle : s.stage t = .idle)
    (enumerator : Enumerator) (root : String) :
    Run b s [⟨t, .start (.get enumerator root)⟩]
      (s.set t s.registry s.holder (.busy (.get enumerator root) (.looking false))) := by
  have hstart := run_start (b := b) hidle (.get enumerator root)
  rw [hcaches] at hstart
  exact hstart

/-! ## Requests as calls -/

/-- The call that a request is. -/
def callOf : Request → Call
  | .get enumerator _ root => .get enumerator root
  | .new enumerator _ root => .new enumerator root
  | .invalidate key => .invalidate key
  | .clear => .clear

/-- What a request returns. -/
def answerTo (r : Registry) : Request → Answer
  | .get enumerator tree root => .loader (r.get enumerator tree root).2.outcome
  | .new enumerator tree root => .loader (r.new enumerator tree root).2.outcome
  | .invalidate key => .removed (r.invalidate key).2.2
  | .clear => .cleared

/-! ## Runs of one thread -/

/-- **A kept loader is handed out** to a thread that asks for it alone, whoever has the build
lock. -/
theorem run_get_of_kept (hcaches : s.registry.caches = true) (hidle : s.stage t = .idle)
    {enumerator : Enumerator} {root : String} {loader : Loader}
    (hkept : s.registry.loaders[LoaderKey.of enumerator.contextId root]? = some loader) :
    Run b s
      [⟨t, .start (.get enumerator root)⟩,
        ⟨t, .look (.of enumerator.contextId root) (some loader)⟩, ⟨t, .countHit⟩,
        ⟨t, .answer (.get enumerator root) (.loader (.ok loader))⟩]
      (s.set t { s.registry with hits := s.registry.hits + 1 } s.holder .idle) := by
  have hfound := (run_begin (b := b) hcaches hidle enumerator root).goesOn
    (.found enumerator root false loader hkept)
  exact (hfound.goesOn (.countHit enumerator root false loader)).goesOn (.answer _ _)

/-- A thread alone builds a loader without the lock. -/
theorem run_unguarded {call : Call} {enumerator : Enumerator} {root : String}
    {outcome : Except Error Loader}
    (hstart : Run b s [⟨t, .start call⟩]
      (s.set t s.registry s.holder (.busy call (.numbering false))))
    (hasked : call.asked? = some (enumerator, root))
    (hbuild : b.comesTo s.registry.nextId enumerator root outcome) :
    Run b s
      ([⟨t, .start call⟩, ⟨t, .number s.registry.nextId⟩,
        ⟨t, .build s.registry.nextId outcome⟩] ++ [⟨t, .answer call (.loader outcome)⟩])
      (s.set t { s.registry with nextId := s.registry.nextId + 1 } s.holder .idle) := by
  have hbuilt := (hstart.goesOn (.number call false)).goesOn
    (.build call enumerator root false _ outcome hasked hbuild)
  have hpoint : Point.built false outcome = .answering (.loader outcome) := by
    cases outcome <;> rfl
  rw [hpoint] at hbuilt
  exact hbuilt.goesOn (.answer _ _)

/-- A thread alone comes to build a loader for a key that none is kept for. -/
theorem run_to_building (hcaches : s.registry.caches = true) (hidle : s.stage t = .idle)
    (hfree : s.holder = none) {enumerator : Enumerator} {root : String}
    (hnone : s.registry.loaders[LoaderKey.of enumerator.contextId root]? = none) :
    Run b s
      [⟨t, .start (.get enumerator root)⟩, ⟨t, .look (.of enumerator.contextId root) none⟩,
        ⟨t, .acquire⟩, ⟨t, .look (.of enumerator.contextId root) none⟩, ⟨t, .countMiss⟩,
        ⟨t, .number s.registry.nextId⟩]
      (s.set t { s.registry with
          nextId := s.registry.nextId + 1, misses := s.registry.misses + 1 } (some t)
        (.busy (.get enumerator root) (.building true s.registry.nextId))) := by
  have hwaits := (run_begin (b := b) hcaches hidle enumerator root).goesOn
    (.absent enumerator root false hnone)
  have hlocks := hwaits.goesOn (.acquire enumerator root hfree)
  have hmisses := hlocks.goesOn (.absent enumerator root true hnone)
  exact (hmisses.goesOn (.countMiss enumerator root)).goesOn (.number _ true)

/-- **A thread that is alone does what a request does**: it can come to the registry after the
request, and then returns what the request is answered with. -/
theorem exists_run_of_request (hidle : s.stage t = .idle) (hfree : s.holder = none)
    (request : Request) :
    ∃ events, Run (Builder.files s.registry.options) s
        (events ++ [⟨t, .answer (callOf request) (s.registry.answerTo request)⟩])
        (s.set t (s.registry.after request) none .idle) ∧
      ∀ event ∈ events, event.thread = t := by
  have hstart := run_start (b := Builder.files s.registry.options) hidle (callOf request)
  cases request with
  | invalidate key =>
    rw [hfree] at hstart
    exact ⟨_, (hstart.goesOn (.invalidate key)).goesOn (.answer _ _), by simp⟩
  | clear =>
    rw [hfree] at hstart
    exact ⟨_, (hstart.goesOn .clear).goesOn (.answer _ _), by simp⟩
  | new enumerator tree root =>
    have hrun := run_unguarded hstart rfl ⟨tree, rfl⟩
    rw [hfree] at hrun
    exact ⟨_, hrun, by simp⟩
  | get enumerator tree root =>
    show ∃ events, Run _ s (events ++ [⟨t, .answer (.get enumerator root)
      (.loader (s.registry.get enumerator tree root).2.outcome)⟩])
      (s.set t (s.registry.get enumerator tree root).1 none .idle) ∧ _
    cases hcaches : s.registry.caches with
    | false =>
      have hnew : s.registry.get enumerator tree root = s.registry.new enumerator tree root := by
        unfold get
        rw [hcaches]
        rfl
      rw [hcaches] at hstart
      have hrun := run_unguarded hstart rfl ⟨tree, rfl⟩
      rw [hfree] at hrun
      rw [hnew]
      exact ⟨_, hrun, by simp⟩
    | true =>
      cases hkept : s.registry.loaders[LoaderKey.of enumerator.contextId root]? with
      | some loader =>
        have hrun := run_get_of_kept (b := Builder.files s.registry.options) hcaches hidle hkept
        rw [hfree] at hrun
        rw [get_of_kept hcaches hkept]
        exact ⟨[_, _, _], hrun, by simp⟩
      | none =>
        have hbuilding := run_to_building (b := Builder.files s.registry.options) hcaches hidle
          hfree hkept
        have hbuilt := hbuilding.goesOn (.build (.get enumerator root) enumerator root true _
          (s.registry.buildFor enumerator tree root) rfl ⟨tree, rfl⟩)
        rw [outcome_get_of_not_kept hcaches hkept, get_of_not_kept hcaches hkept]
        cases hbuild : s.registry.buildFor enumerator tree root with
        | error e =>
          rw [hbuild] at hbuilt
          rw [buildKept_of_error hbuild]
          exact ⟨_, (hbuilt.goesOn (.release _ _)).goesOn (.answer _ _), by simp⟩
        | ok loader =>
          rw [hbuild] at hbuilt
          rw [buildKept_of_ok hbuild]
          exact ⟨_, ((hbuilt.goesOn (.keep enumerator root loader)).goesOn
            (.release _ _)).goesOn (.answer _ _), by simp⟩

end Wiring.Registry
