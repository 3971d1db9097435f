import Wiring.Loader
import Wiring.Proofs.Outcome
import Wiring.Proofs.Roots

/-!
# Loaders · What is built

The outcome of building a loader, apart from everything that is said on the way. It depends on the
number of the loader nowhere but in the loader itself: whether there is one, its key and its
decisions are a matter of the context, of the view and of the root. Main statements:
`outcome_build_eq_ok_iff`, and `exists_build_same`, which compares the loaders of two builds. The
root is normalized when the key is made, and once more when the root of the key is resolved
(`root_of_build`).
-/

namespace Wiring

/-! ## Work that is delivered -/

namespace Delivered

variable {α β : Type}

/-- To say something of a failure does not change what work comes to. -/
@[simp] theorem outcome_onError (work : Delivered α) (say : Error → List Delivery) :
    (work.onError say).outcome = work.outcome := by
  unfold onError
  split <;> simp_all

/-- Work that is delivered comes to what it comes to. -/
@[simp] theorem outcome_run (d : Diagnostics) (report : Report α) :
    (d.run report).outcome = report.outcome := rfl

/-- What is said of a failure arrives behind what was delivered before. -/
theorem onError_of_error {work : Delivered α} {e : Error} (h : work.outcome = .error e)
    (say : Error → List Delivery) :
    work.onError say = ⟨work.deliveries ++ say e, .error e⟩ := by
  rw [onError, h]

/-- Nothing is said of work that succeeds. -/
theorem onError_of_ok {work : Delivered α} {a : α} (h : work.outcome = .ok a)
    (say : Error → List Delivery) : work.onError say = ⟨work.deliveries, .ok a⟩ := by
  rw [onError, h]

/-- What would follow work that fails delivers nothing. -/
theorem bind_of_error {first : Delivered α} {e : Error} (h : first.outcome = .error e)
    (next : α → Delivered β) : first.bind next = ⟨first.deliveries, .error e⟩ := by
  rw [bind, h]

/-- What follows work that succeeds is delivered behind it. -/
theorem bind_of_ok {first : Delivered α} {a : α} (h : first.outcome = .ok a)
    (next : α → Delivered β) :
    first.bind next = ⟨first.deliveries ++ (next a).deliveries, (next a).outcome⟩ := by
  rw [bind, h]

/-- Work of two parts comes to what the second part makes of the result of the first. -/
theorem outcome_bind_eq (first : Delivered α) (next : α → Delivered β) :
    (first.bind next).outcome = first.outcome >>= fun a => (next a).outcome := by
  unfold bind
  cases first.outcome <;> rfl

end Delivered

/-! ## Decisions -/

/-- Decisions are made for the normal form of the root that was asked for. -/
theorem Resolved.root_of_load {view : View} {root : String} {overrides : Overrides}
    {resolved : Resolved} (h : (load view root overrides).outcome = .ok resolved) :
    resolved.root = normalizeRoot root := by
  obtain ⟨records, -, hresolved⟩ := Report.outcome_bind_eq_ok_iff.1 h
  obtain ⟨services, -, hstray⟩ := Report.outcome_bind_eq_ok_iff.1 hresolved
  obtain ⟨-, -, hplugins⟩ := Report.outcome_bind_eq_ok_iff.1 hstray
  obtain ⟨plugins, -, hdone⟩ := Report.outcome_bind_eq_ok_iff.1 hplugins
  rw [← Except.ok.inj hdone]

namespace Loader

variable {id : Nat} {enumerator : Enumerator} {tree : FileTree} {root : String}
  {options : LoaderOptions} {loader : Loader}

/-! ## The sink -/

/-- Whether a loader of a key can be given a sink, and which one, whatever its number. -/
def sinkFor (key : LoaderKey) (view : View) (options : LoaderOptions) :
    Except Error (Option Sink) :=
  if key.root = sinkRoot then .ok none else (readSink view options).outcome

/-- The handle of a new loader speaks to the sink that is found, else to the log. -/
theorem outcome_openDiagnostics (id : Nat) (key : LoaderKey) (view : View)
    (options : LoaderOptions) :
    (openDiagnostics id key view options).outcome =
      (sinkFor key view options).map fun sink => ⟨id, options.verbosity, sink.getD .log⟩ := by
  unfold openDiagnostics sinkFor
  dsimp only
  split
  · rfl
  · rw [Delivered.outcome_bind_eq, Delivered.outcome_onError, Delivered.outcome_run]
    cases (readSink view options).outcome <;> rfl

/-! ## Building -/

/-- What is said around the resolution of a root does not change what it comes to. -/
theorem outcome_resolveRoot (id : Nat) (key : LoaderKey) (view : View) (options : LoaderOptions) :
    (resolveRoot id key view options).outcome =
      (Resolved.load view key.root options.overrides).outcome := by
  unfold resolveRoot
  rw [Report.outcome_say_bind, Report.outcome_bind_eq]
  cases (Resolved.load view key.root options.overrides).outcome <;> rfl

/-- **A loader is built** exactly when there is a sink to speak to and the root of its key can be
resolved; it holds the key and the decisions. -/
theorem outcome_build_eq_ok_iff :
    (build id enumerator tree root options).outcome = .ok loader ↔
      ∃ sink resolved,
        sinkFor (.of enumerator.contextId root) (enumerator.view tree) options = .ok sink ∧
        (Resolved.load (enumerator.view tree) (normalizeRoot root) options.overrides).outcome =
          .ok resolved ∧
        loader = ⟨id, .of enumerator.contextId root, resolved, enumerator, options.factories,
          ⟨id, options.verbosity, sink.getD .log⟩⟩ := by
  unfold build
  simp only [Delivered.outcome_bind_eq, Delivered.outcome_onError, Delivered.outcome_run,
    outcome_openDiagnostics, outcome_resolveRoot, bind_eq_ok_iff]
  constructor
  · rintro ⟨diagnostics, hdiagnostics, resolved, hresolved, hloader⟩
    cases hsink : sinkFor (.of enumerator.contextId root) (enumerator.view tree) options with
    | error e =>
      rw [hsink] at hdiagnostics
      cases hdiagnostics
    | ok sink =>
      rw [hsink] at hdiagnostics
      obtain rfl := Except.ok.inj hdiagnostics
      exact ⟨sink, resolved, rfl, hresolved, (Except.ok.inj hloader).symm⟩
  · rintro ⟨sink, resolved, hsink, hresolved, rfl⟩
    refine ⟨_, ?_, resolved, hresolved, rfl⟩
    rw [hsink]
    rfl

/-- The loader bears the number it was built with. -/
theorem id_of_build (h : (build id enumerator tree root options).outcome = .ok loader) :
    loader.id = id := by
  obtain ⟨sink, resolved, -, -, rfl⟩ := outcome_build_eq_ok_iff.1 h
  rfl

/-- The loader bears the key of its root. -/
theorem key_of_build (h : (build id enumerator tree root options).outcome = .ok loader) :
    loader.key = .of enumerator.contextId root := by
  obtain ⟨sink, resolved, -, -, rfl⟩ := outcome_build_eq_ok_iff.1 h
  rfl

/-- The decisions are for the normal form of the root of the key. -/
theorem root_of_build (h : (build id enumerator tree root options).outcome = .ok loader) :
    loader.resolved.root = normalizeRoot (normalizeRoot root) := by
  obtain ⟨sink, resolved, -, hresolved, rfl⟩ := outcome_build_eq_ok_iff.1 h
  exact Resolved.root_of_load hresolved

/-- **Two builds of one root** from the same context and view differ in their numbers alone: if one
succeeds the other does, and they come to the same loader. -/
theorem exists_build_same {id' : Nat} {enumerator' : Enumerator} {tree' : FileTree} {root' : String}
    (hkey : LoaderKey.of enumerator.contextId root = .of enumerator'.contextId root')
    (hview : enumerator.view tree = enumerator'.view tree')
    (h : (build id enumerator tree root options).outcome = .ok loader) :
    ∃ loader', (build id' enumerator' tree' root' options).outcome = .ok loader' ∧
      loader.same loader' = true := by
  obtain ⟨sink, resolved, hsink, hresolved, rfl⟩ := outcome_build_eq_ok_iff.1 h
  have hroot : normalizeRoot root = normalizeRoot root' := congrArg LoaderKey.root hkey
  rw [hkey, hview] at hsink
  rw [hroot, hview] at hresolved
  refine ⟨_, outcome_build_eq_ok_iff.2 ⟨sink, resolved, hsink, hresolved, rfl⟩, ?_⟩
  unfold same
  rw [hkey]
  simp

end Loader

end Wiring
