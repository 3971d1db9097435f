import Wiring.Proofs.Loader
import Wiring.Proofs.Resolution.Routine

/-!
# Loaders · Failures are reported once

A failure of a loader leaves from many places, and each of them is told to the sink in charge by one
delivery. `ReportsOnce sink work` says so of a piece of work: it fails exactly when one failure is
delivered and succeeds exactly when none is, and the delivery is the last one, goes to the sink and
ends with the wording of the error. The work itself only says what is routine (`saysOnly_load`,
`saysOnly_instantiate`), the delivery is added when it has failed (`reportsOnce_onError`), and what
follows work that succeeded is all that counts (`reportsOnce_bind_of_ok`).

Which sink is in charge is a matter of the service that is configured for it (`SinkInCharge`). While
it is looked for and built, nothing but its failure is delivered below full detail
(`seeksSilently`). Main statement: `failures_reported_once`, for building a loader and for building
objects with it. What a constructor delivers by itself is not looked at.
-/

namespace Wiring

open Report

/-! ## Deliveries -/

namespace Delivery

/-- Whether a delivery tells of a failure. -/
def isError : Delivery → Bool
  | logged entry => entry.level = .error
  | handed _ _ note => note.severity = .error

/-- What tells of a failure is a note. -/
theorem isNote_of_isError {delivery : Delivery} (h : delivery.isError = true) :
    delivery.isNote = true := by
  cases delivery with
  | logged entry =>
    have hlevel : entry.level = .error := of_decide_eq_true h
    rw [isNote, hlevel]
    rfl
  | handed sink id note => rfl

/-- Where it arrives. -/
def sink : Delivery → Sink
  | logged _ => .log
  | handed sink _ _ => sink

/-- What is said. -/
def text : Delivery → String
  | logged entry => entry.message
  | handed _ _ note => note.text

end Delivery

namespace Diagnostics

variable (d : Diagnostics)

/-- A note tells of a failure if that is its severity. -/
theorem isError_hand (note : Note) : (d.hand note).isError = (note.severity = .error) := by
  unfold hand
  split
  · cases note.severity <;> simp [Delivery.isError, Severity.logLevel]
  · simp [Delivery.isError]

/-- A note arrives at the sink of the handle. -/
theorem sink_hand (note : Note) : (d.hand note).sink = d.sink := by
  unfold hand
  split
  · exact Eq.symm ‹_›
  · rfl

/-- A note arrives as it was worded. -/
theorem text_hand (note : Note) : (d.hand note).text = note.text := by
  unfold hand
  split <;> rfl

/-- A failure is delivered at every verbosity. -/
theorem say_error (text : String) : d.say .error text = [d.hand ⟨.error, text, false⟩] := by
  have hadmits : d.verbosity.admits ⟨.error, text, false⟩ = true := by
    cases d.verbosity <;> rfl
  simp [say, deliver, deliverOne, hadmits]

end Diagnostics

/-! ## What is delivered of some work -/

namespace Delivered

variable {α β : Type} {sink : Sink} {work : Delivered α}

/-- The notes that are delivered, in order. -/
def notes (work : Delivered α) : List Delivery :=
  work.deliveries.filter Delivery.isNote

/-- The failures that are delivered, in order. -/
def errors (work : Delivered α) : List Delivery :=
  work.deliveries.filter Delivery.isError

/-- The failures are those among the notes. -/
theorem filter_isError_notes (work : Delivered α) :
    work.notes.filter Delivery.isError = work.errors := by
  rw [notes, errors, List.filter_filter]
  refine List.filter_congr fun delivery _ => ?_
  cases herror : delivery.isError with
  | false => rfl
  | true => exact Delivery.isNote_of_isError herror

/-- A handle delivers the notes that are shown at its verbosity. -/
theorem notes_run (d : Diagnostics) (report : Report α) :
    (d.run report).notes = (report.shown d.verbosity).map d.hand :=
  d.filter_isNote_deliver report

/-- Nothing that a handle delivers of routine notes tells of a failure. -/
theorem errors_run (d : Diagnostics) {report : Report α} (h : report.SaysOnly Note.IsRoutine) :
    (d.run report).errors = [] := by
  rw [← filter_isError_notes, notes_run, List.filter_eq_nil_iff]
  intro delivery hdelivery
  obtain ⟨note, hnote, rfl⟩ := List.mem_map.1 hdelivery
  rw [d.isError_hand]
  exact (h note (List.mem_of_mem_filter hnote)).severity_ne

/-- A handle that shows failures only delivers no routine notes. -/
theorem notes_run_of_error (d : Diagnostics) (hv : d.verbosity = .error) {report : Report α}
    (h : report.SaysOnly Note.IsRoutine) : (d.run report).notes = [] := by
  rw [notes_run, hv, Report.shown, filter_admits_error fun note hnote => (h note hnote).severity_ne,
    List.map_nil]

/-- Putting the result together delivers nothing. -/
theorem deliveries_bind_ok (work : Delivered α) (f : α → β) :
    (work.bind fun a => ⟨[], .ok (f a)⟩).deliveries = work.deliveries := by
  cases h : work.outcome with
  | error e => rw [bind_of_error h]
  | ok a => rw [bind_of_ok h, List.append_nil]

/-- Work that succeeded delivers the same notes. -/
theorem notes_onError_of_ok {work : Delivered α} {a : α} (h : work.outcome = .ok a)
    (say : Error → List Delivery) : (work.onError say).notes = work.notes := by
  rw [onError_of_ok h, notes, notes]

/-- Work that failed delivers its notes, then those of what is said of the failure. -/
theorem notes_onError_of_error {work : Delivered α} {e : Error} (h : work.outcome = .error e)
    (say : Error → List Delivery) :
    (work.onError say).notes = work.notes ++ (say e).filter Delivery.isNote := by
  rw [onError_of_error h, notes, List.filter_append, ← notes]

/-! ## Work that reports its failure once -/

/-- Whether the failure of a piece of work is reported exactly once, at the end, to a sink. -/
structure ReportsOnce (sink : Sink) (work : Delivered α) : Prop where
  /-- It fails exactly when one failure is delivered. -/
  error_iff : (∃ e, work.outcome = .error e) ↔ ∃ delivery, work.errors = [delivery]
  /-- It succeeds exactly when none is delivered. -/
  ok_iff : (∃ a, work.outcome = .ok a) ↔ work.errors = []
  /-- The failure is delivered last, to the sink, and ends with the wording of the error. -/
  last : ∀ e, work.outcome = .error e → ∃ before delivery front,
    work.deliveries = before ++ [delivery] ∧ delivery.isError = true ∧ delivery.sink = sink ∧
      delivery.text = front ++ e.message

/-- Work that succeeds without a failure told on the way. -/
theorem reportsOnce_of_ok {a : α} (h : work.outcome = .ok a) (hquiet : work.errors = []) :
    work.ReportsOnce sink := by
  refine ⟨?_, ?_, ?_⟩
  · simp [h, hquiet]
  · simp [h, hquiet]
  · intro e he
    cases h.symm.trans he

/-- Work whose only failure is delivered at the end. -/
theorem reportsOnce_of_error {e : Error} {before : List Delivery} {delivery : Delivery}
    {front : String} (h : work.outcome = .error e)
    (hdeliveries : work.deliveries = before ++ [delivery])
    (hbefore : before.filter Delivery.isError = []) (herror : delivery.isError = true)
    (hsink : delivery.sink = sink) (htext : delivery.text = front ++ e.message) :
    work.ReportsOnce sink := by
  have herrors : work.errors = [delivery] := by
    simp [errors, hdeliveries, hbefore, herror]
  refine ⟨?_, ?_, ?_⟩
  · simp [h, herrors]
  · simp [h, herrors]
  · intro e' he'
    obtain rfl := Except.error.inj (h.symm.trans he')
    exact ⟨before, delivery, front, hdeliveries, herror, hsink, htext⟩

/-- **Work whose failure is said** when it has failed, and that says nothing else of the kind. -/
theorem reportsOnce_onError (d : Diagnostics) {say : Error → String}
    (hsay : ∀ e, ∃ front, say e = front ++ e.message) (hquiet : work.errors = []) :
    (work.onError fun e => d.say .error (say e)).ReportsOnce d.sink := by
  cases h : work.outcome with
  | error e =>
    obtain ⟨front, hfront⟩ := hsay e
    rw [onError_of_error h, d.say_error]
    exact reportsOnce_of_error rfl rfl hquiet (by simp [d.isError_hand]) (d.sink_hand _)
      ((d.text_hand _).trans hfront)
  | ok a =>
    rw [onError_of_ok h]
    exact reportsOnce_of_ok rfl hquiet

/-- What is not reached delivers nothing. -/
theorem reportsOnce_bind_of_error (h : work.ReportsOnce sink) {e : Error}
    (he : work.outcome = .error e) (next : α → Delivered β) :
    (work.bind next).ReportsOnce sink := by
  rw [bind_of_error he]
  refine ⟨iff_of_true ⟨e, rfl⟩ (h.error_iff.1 ⟨e, he⟩), iff_of_false nofun fun hnone => ?_, ?_⟩
  · obtain ⟨a, ha⟩ := h.ok_iff.2 hnone
    cases he.symm.trans ha
  · rintro _ ⟨⟩
    exact h.last e he

/-- **Work that succeeded** leaves it to the rest to fail. -/
theorem reportsOnce_bind_of_ok (hquiet : work.errors = []) {a : α} (ha : work.outcome = .ok a)
    {next : α → Delivered β} (hnext : (next a).ReportsOnce sink) :
    (work.bind next).ReportsOnce sink := by
  have herrors : (work.bind next).errors = (next a).errors := by
    rw [bind_of_ok ha, errors, List.filter_append, ← errors, hquiet, List.nil_append, ← errors]
  refine ⟨?_, ?_, ?_⟩
  · rw [herrors, bind_of_ok ha]
    exact hnext.error_iff
  · rw [herrors, bind_of_ok ha]
    exact hnext.ok_iff
  · intro e he
    rw [bind_of_ok ha] at he ⊢
    obtain ⟨before, delivery, front, hdeliveries, hlast⟩ := hnext.last e he
    refine ⟨work.deliveries ++ before, delivery, front, ?_, hlast⟩
    rw [hdeliveries, List.append_assoc]

/-- Putting the result together cannot fail. -/
theorem ReportsOnce.bind_ok (h : work.ReportsOnce sink) (f : α → β) :
    (work.bind fun a => ⟨[], .ok (f a)⟩).ReportsOnce sink := by
  cases houtcome : work.outcome with
  | error e => exact reportsOnce_bind_of_error h houtcome _
  | ok a =>
    exact reportsOnce_bind_of_ok (h.ok_iff.1 ⟨a, houtcome⟩) houtcome (reportsOnce_of_ok rfl rfl)

end Delivered

/-! ## What is said while objects are built -/

namespace Declaration

/-- All that is said while an object is built is routine. -/
theorem saysOnly_instantiate (d : Declaration) (view : View) (factories : FactoryTable)
    (contract : String) :
    (d.instantiate view factories contract).SaysOnly Note.IsRoutine := by
  have hread (file : String) : (d.readParameters view file).SaysOnly Note.IsRoutine := by
    refine (saysOnly_of_notes_eq_nil (notes_enumerate view _ _)).bind fun candidates => ?_
    split
    · exact saysOnly_fail _
    · split
      · exact saysOnly_fail _
      · exact (saysOnly_routine (by decide) _).bind fun _ =>
          (saysOnly_routine (by decide) _).bind_pure _
  have hparameters : (d.parameters view).SaysOnly Note.IsRoutine := by
    unfold parameters
    dsimp only
    split
    · exact (saysOnly_routine (by decide) _).bind_pure _
    · split
      · exact hread _
      · exact saysOnly_fail _
  have hconstruct (constructor : Constructor) :
      (d.construct view constructor).SaysOnly Note.IsRoutine := by
    cases constructor with
    | empty build => exact saysOnly_pure _
    | text build => exact saysOnly_pure _
    | parameters build => exact hparameters.bind_pure _
  exact (saysOnly_of_notes_eq_nil rfl).bind fun _ => (hconstruct _).bind fun _ =>
    saysOnly_of_notes_eq_nil rfl

end Declaration

namespace Loader

/-- All that is said while a sink is looked for and built is routine. -/
theorem saysOnly_readSink (view : View) (options : LoaderOptions) :
    (readSink view options).SaysOnly Note.IsRoutine := by
  refine (Resolved.saysOnly_load view sinkRoot options.overrides).bind fun resolved => ?_
  split
  · exact saysOnly_pure _
  · exact (Declaration.saysOnly_instantiate _ view options.factories _).bind fun _ =>
      (saysOnly_routine (by decide) _).bind_pure _

/-- All that is said around the resolution of a root is routine. -/
theorem saysOnly_resolveRoot (id : Nat) (key : LoaderKey) (view : View)
    (options : LoaderOptions) :
    (resolveRoot id key view options).SaysOnly Note.IsRoutine :=
  (saysOnly_routine (by decide) _).bind fun _ =>
    (Resolved.saysOnly_load view key.root options.overrides).bind fun _ =>
    (saysOnly_routine (by decide) _).bind_pure _

/-- All that is said while the object of a service is built is routine. -/
theorem saysOnly_buildService (loader : Loader) (view : View) (contract : String) :
    (loader.buildService view contract).SaysOnly Note.IsRoutine := by
  unfold buildService
  split
  · exact (saysOnly_routine (by decide) _).bind_pure _
  · exact (Declaration.saysOnly_instantiate _ view _ _).bind fun _ =>
      (saysOnly_routine (by decide) _).bind_pure _

/-- All that is said while the objects of plugins are built is routine. -/
theorem saysOnly_buildPlugins (loader : Loader) (view : View) (contract : String) :
    (loader.buildPlugins view contract).SaysOnly Note.IsRoutine := by
  unfold buildPlugins
  split
  · exact (saysOnly_routine (by decide) _).bind_pure _
  · refine (saysOnly_mapM (fun _ => Declaration.saysOnly_instantiate _ view _ _) _).bind
      fun objects => (saysOnly_forM (fun _ => saysOnly_routine (by decide) _) _).bind fun _ => ?_
    dsimp only
    split
    · exact (saysOnly_routine (by decide) _).bind_pure _
    · exact saysOnly_pure _

/-! ## The sink in charge -/

/-- Whether a declaration is that of the service which a loader of a key is to speak to: the one
that is chosen for the sink contract below the sink root. The loader of that root has none. -/
structure ConfiguresSink (key : LoaderKey) (view : View) (options : LoaderOptions)
    (d : Declaration) : Prop where
  /-- The loader is not that of the sink root. -/
  root_ne : key.root ≠ sinkRoot
  /-- The service is chosen there. -/
  chosen : ∃ resolved choice,
    (Resolved.load view sinkRoot options.overrides).outcome = .ok resolved ∧
      resolved.services[sinkContract]? = some choice ∧ choice.applied.declaration = d

/-- **Which sink is in charge** of a new loader. -/
inductive SinkInCharge (key : LoaderKey) (view : View) (options : LoaderOptions) : Sink → Prop
  /-- The object of the configured service, if it can be built. -/
  | configured {d : Declaration} {object : Instance} (hd : ConfiguresSink key view options d)
      (hobject : (d.instantiate view options.factories sinkContract).outcome = .ok object) :
      SinkInCharge key view options (.labelled object.label)
  /-- The process log, if no service is configured or its object cannot be built. -/
  | log (h : ∀ d, ConfiguresSink key view options d → ∀ object,
      (d.instantiate view options.factories sinkContract).outcome ≠ .ok object) :
      SinkInCharge key view options .log

section

variable {key : LoaderKey} {view : View} {options : LoaderOptions}

/-- One service is configured at most. -/
theorem ConfiguresSink.unique {d other : Declaration} (h : ConfiguresSink key view options d)
    (hother : ConfiguresSink key view options other) : d = other := by
  obtain ⟨resolved, choice, hresolved, hchoice, rfl⟩ := h.chosen
  obtain ⟨resolved', choice', hresolved', hchoice', rfl⟩ := hother.chosen
  obtain rfl := Except.ok.inj (hresolved.symm.trans hresolved')
  obtain rfl := Option.some.inj (hchoice.symm.trans hchoice')
  rfl

/-- One sink is in charge at most. -/
theorem SinkInCharge.unique {sink other : Sink} (h : SinkInCharge key view options sink)
    (hother : SinkInCharge key view options other) : sink = other := by
  cases h with
  | configured hd hobject =>
    cases hother with
    | configured hd' hobject' =>
      obtain rfl := hd.unique hd'
      rw [Except.ok.inj (hobject.symm.trans hobject')]
    | log hnone => exact absurd hobject (hnone _ hd _)
  | log hnone =>
    cases hother with
    | configured hd hobject => exact absurd hobject (hnone _ hd _)
    | log _ => rfl

/-- **A sink is found** where the configured service can be built, and it is the object of that
service. -/
theorem sinkFor_eq_some_iff {sink : Sink} :
    sinkFor key view options = .ok (some sink) ↔
      ∃ d object, ConfiguresSink key view options d ∧
        (d.instantiate view options.factories sinkContract).outcome = .ok object ∧
        sink = .labelled object.label := by
  unfold sinkFor
  split
  · next hroot =>
    constructor
    · intro hnone
      cases hnone
    · rintro ⟨d, -, hd, -⟩
      exact absurd hroot hd.root_ne
  · next hroot =>
    unfold readSink
    rw [Report.outcome_bind_eq_ok_iff]
    constructor
    · rintro ⟨resolved, hresolved, hfound⟩
      cases hchoice : resolved.services[sinkContract]? with
      | none =>
        rw [hchoice] at hfound
        cases hfound
      | some choice =>
        rw [hchoice] at hfound
        obtain ⟨object, hobject, hsaid⟩ := Report.outcome_bind_eq_ok_iff.1 hfound
        cases hsaid
        exact ⟨_, object, ⟨hroot, resolved, choice, hresolved, hchoice, rfl⟩, hobject, rfl⟩
    · rintro ⟨_, object, ⟨-, resolved, choice, hresolved, hchoice, rfl⟩, hobject, rfl⟩
      refine ⟨resolved, hresolved, ?_⟩
      rw [hchoice]
      exact Report.outcome_bind_eq_ok_iff.2 ⟨object, hobject, rfl⟩

/-- Where no sink is found the process log is in charge. -/
theorem sinkInCharge_log (h : ∀ sink, sinkFor key view options ≠ .ok (some sink)) :
    SinkInCharge key view options .log :=
  .log fun d hd object hobject => h _ (sinkFor_eq_some_iff.2 ⟨d, object, hd, hobject, rfl⟩)

/-- A sink that is found is in charge, else the process log. -/
theorem sinkInCharge_of_sinkFor {found : Option Sink}
    (h : sinkFor key view options = .ok found) :
    SinkInCharge key view options (found.getD .log) := by
  cases found with
  | none =>
    refine sinkInCharge_log fun sink hsink => ?_
    cases h.symm.trans hsink
  | some sink =>
    obtain ⟨d, object, hd, hobject, rfl⟩ := sinkFor_eq_some_iff.1 h
    exact .configured hd hobject

end

/-! ## Building a loader -/

/-- What is done once there is a handle: the root is resolved, and the handle is told if it cannot
be. -/
def resolveWith (id : Nat) (key : LoaderKey) (view : View) (options : LoaderOptions)
    (d : Diagnostics) : Delivered Resolved :=
  (d.run (resolveRoot id key view options)).onError fun e =>
    d.say .error s!"Loader {id} failed on {key.text}: {e.message}"

/-- A loader is built by opening a handle and resolving its root. -/
theorem build_eq (id : Nat) (enumerator : Enumerator) (tree : FileTree) (root : String)
    (options : LoaderOptions) :
    build id enumerator tree root options =
      (openDiagnostics id (.of enumerator.contextId root) (enumerator.view tree) options).bind
        fun d => (resolveWith id (.of enumerator.contextId root) (enumerator.view tree) options
          d).bind fun resolved => ⟨[], .ok ⟨id, .of enumerator.contextId root, resolved, enumerator,
            options.factories, d⟩⟩ := rfl

/-- A sink that cannot be built is reported to the process log. -/
theorem reportsOnce_openDiagnostics (id : Nat) (key : LoaderKey) (view : View)
    (options : LoaderOptions) : (openDiagnostics id key view options).ReportsOnce .log := by
  unfold openDiagnostics
  dsimp only
  split
  · exact Delivered.reportsOnce_of_ok rfl rfl
  · exact (Delivered.reportsOnce_onError ⟨id, options.verbosity, .log⟩ (fun _ => ⟨_, rfl⟩)
      (Delivered.errors_run _ (saysOnly_readSink view options))).bind_ok _

/-- A root that cannot be resolved is reported to the sink of the handle. -/
theorem reportsOnce_resolveWith (id : Nat) (key : LoaderKey) (view : View)
    (options : LoaderOptions) (d : Diagnostics) :
    (resolveWith id key view options d).ReportsOnce d.sink :=
  Delivered.reportsOnce_onError d (fun _ => ⟨_, rfl⟩)
    (Delivered.errors_run d (saysOnly_resolveRoot id key view options))

/-- What can keep a loader from being built is reported to the sink in charge, at which the loader
speaks afterwards. -/
theorem exists_reportsOnce_build (id : Nat) (enumerator : Enumerator) (tree : FileTree)
    (root : String) (options : LoaderOptions) :
    ∃ sink, SinkInCharge (.of enumerator.contextId root) (enumerator.view tree) options sink ∧
      (build id enumerator tree root options).ReportsOnce sink ∧
      ∀ loader, (build id enumerator tree root options).outcome = .ok loader →
        loader.diagnostics = ⟨id, options.verbosity, sink⟩ := by
  have hopen := reportsOnce_openDiagnostics id (.of enumerator.contextId root)
    (enumerator.view tree) options
  have houtcome := outcome_openDiagnostics id (.of enumerator.contextId root)
    (enumerator.view tree) options
  cases hsink : sinkFor (.of enumerator.contextId root) (enumerator.view tree) options with
  | error e =>
    rw [hsink] at houtcome
    refine ⟨.log, sinkInCharge_log fun sink hfound => ?_, ?_, fun loader hloader => ?_⟩
    · cases hsink.symm.trans hfound
    · exact Delivered.reportsOnce_bind_of_error hopen houtcome _
    · obtain ⟨_, _, hfound, -⟩ := outcome_build_eq_ok_iff.1 hloader
      cases hsink.symm.trans hfound
  | ok found =>
    rw [hsink] at houtcome
    refine ⟨found.getD .log, sinkInCharge_of_sinkFor hsink, ?_, fun loader hloader => ?_⟩
    · have hresolve := reportsOnce_resolveWith id (.of enumerator.contextId root)
        (enumerator.view tree) options ⟨id, options.verbosity, found.getD .log⟩
      exact Delivered.reportsOnce_bind_of_ok (hopen.ok_iff.1 ⟨_, houtcome⟩) houtcome
        (hresolve.bind_ok _)
    · obtain ⟨sink, resolved, hfound, -, rfl⟩ := outcome_build_eq_ok_iff.1 hloader
      rw [Except.ok.inj (hsink.symm.trans hfound)]

/-- A module that configures a sink and has a malformed service definition. -/
def brokenModule (sink : String) : List Enumerator.Embedded :=
  [⟨"a", "META-INF/spi-logger/service.properties", s!"spi.DiagnosticSink>x>library={sink}".toUTF8⟩,
    ⟨"a", "META-INF/spi/service.properties", "c=X".toUTF8⟩]

/-- The sink is told of the definition, and the log of a sink that refuses to be built. -/
example : ["test.Sink(here)", "test.SinkFail"].map (fun sink =>
    (build 1 (.embedded "test" (brokenModule sink)) ⟨[], ∅, ∅⟩ ""
      ⟨⟨∅, ∅, ∅⟩, .error, Catalogue.all⟩).errors.map Delivery.sink) =
    [[.labelled "here"], [.log]] := by decide +kernel

/-! ## Looking for the sink -/

/-- What is said in the process log of a sink that cannot be built. -/
def sinkFailure (id : Nat) (options : LoaderOptions) (e : Error) : Delivery :=
  (⟨id, options.verbosity, .log⟩ : Diagnostics).hand
    ⟨.error, s!"Diagnostic sink failed: {e.message}", false⟩

/-- Whether the building of a loader says nothing of its own while the sink is looked for: its
failure is the one note then, and else all that is said is said by the handle afterwards. -/
structure SeeksSilently (id : Nat) (enumerator : Enumerator) (tree : FileTree) (root : String)
    (options : LoaderOptions) : Prop where
  /-- A sink that cannot be built is all that is told of. -/
  failed : ∀ e, (openDiagnostics id (.of enumerator.contextId root) (enumerator.view tree)
      options).outcome = .error e →
    (build id enumerator tree root options).notes = [sinkFailure id options e]
  /-- Up to the handle nothing is told, and all that follows is the resolution of the root. -/
  opened : ∀ d, (openDiagnostics id (.of enumerator.contextId root) (enumerator.view tree)
      options).outcome = .ok d →
    (openDiagnostics id (.of enumerator.contextId root) (enumerator.view tree) options).notes = [] ∧
      (build id enumerator tree root options).notes =
        (resolveWith id (.of enumerator.contextId root) (enumerator.view tree) options d).notes

/-- **Below full detail a handle is opened without a word** if that succeeds, and with its failure
alone if it does not. -/
theorem notes_openDiagnostics (id : Nat) (key : LoaderKey) (view : View) {options : LoaderOptions}
    (hv : options.verbosity ≠ .debug) :
    (openDiagnostics id key view options).notes =
      match (openDiagnostics id key view options).outcome with
      | .error e => [sinkFailure id options e]
      | .ok _ => [] := by
  have hverbosity : sinkVerbosity options.verbosity = .error := by
    cases hcase : options.verbosity with
    | error => rfl
    | info => rfl
    | debug => exact absurd hcase hv
  unfold openDiagnostics
  dsimp only
  split
  · rfl
  · -- the handle with which the sink is looked for shows failures only, and none is said
    have hquiet := Delivered.notes_run_of_error ⟨id, sinkVerbosity options.verbosity, .log⟩
      hverbosity (saysOnly_readSink view options)
    rw [Delivered.notes, Delivered.deliveries_bind_ok, ← Delivered.notes,
      Delivered.outcome_bind_eq, Delivered.outcome_onError]
    cases houtcome : (Diagnostics.run ⟨id, sinkVerbosity options.verbosity, .log⟩
        (readSink view options)).outcome with
    | error e =>
      rw [Delivered.notes_onError_of_error houtcome, hquiet, Diagnostics.say_error,
        List.nil_append]
      exact List.filter_cons_of_pos (Diagnostics.isNote_hand _ _)
    | ok found =>
      rw [Delivered.notes_onError_of_ok houtcome, hquiet]
      rfl

/-- Building a loader says nothing of its own below full detail while the sink is looked for. -/
theorem seeksSilently (id : Nat) (enumerator : Enumerator) (tree : FileTree) (root : String)
    {options : LoaderOptions} (hv : options.verbosity ≠ .debug) :
    SeeksSilently id enumerator tree root options := by
  have hnotes := notes_openDiagnostics id (.of enumerator.contextId root) (enumerator.view tree) hv
  constructor
  · intro e he
    rw [build_eq, Delivered.bind_of_error he]
    exact hnotes.trans (by rw [he])
  · intro d hd
    rw [hd] at hnotes
    refine ⟨hnotes, ?_⟩
    rw [build_eq, Delivered.bind_of_ok hd, Delivered.notes, List.filter_append, ← Delivered.notes,
      hnotes, List.nil_append, Delivered.deliveries_bind_ok, ← Delivered.notes]

/-! ## All failures -/

/-- Objects that cannot be built are reported to the loader's own sink. -/
theorem reportsOnce_reportFailure {α : Type} (loader : Loader) (contract : String)
    {report : Report α} (h : report.SaysOnly Note.IsRoutine) :
    (loader.reportFailure contract (loader.diagnostics.run report)).ReportsOnce
      loader.diagnostics.sink :=
  Delivered.reportsOnce_onError loader.diagnostics (fun _ => ⟨_, rfl⟩) (Delivered.errors_run _ h)

/-- **Every failure of a loader is reported exactly once, to the right sink.** Building a loader
fails exactly when one failure is delivered, which then comes last, ends with the wording of the
error and goes to the one sink in charge; and so do the building of a service and that of plugins,
to the loader's own sink, which is the one that was in charge. At the two lower verbosities the
building of a loader says nothing of its own while the sink is looked for. -/
theorem failures_reported_once :
    (∀ (id : Nat) (enumerator : Enumerator) (tree : FileTree) (root : String)
        (options : LoaderOptions),
      ∃ sink, (∀ other, SinkInCharge (.of enumerator.contextId root) (enumerator.view tree) options
          other ↔ other = sink) ∧
        (build id enumerator tree root options).ReportsOnce sink ∧
        ∀ loader, (build id enumerator tree root options).outcome = .ok loader →
          loader.diagnostics = ⟨id, options.verbosity, sink⟩) ∧
    (∀ (loader : Loader) (tree : FileTree) (contract : String),
      (loader.loadService tree contract).ReportsOnce loader.diagnostics.sink ∧
        (loader.loadPlugins tree contract).ReportsOnce loader.diagnostics.sink) ∧
    ∀ (id : Nat) (enumerator : Enumerator) (tree : FileTree) (root : String)
      (options : LoaderOptions), options.verbosity = .error ∨ options.verbosity = .info →
      SeeksSilently id enumerator tree root options := by
  refine ⟨fun id enumerator tree root options => ?_, fun loader tree contract => ⟨?_, ?_⟩, ?_⟩
  · obtain ⟨sink, hcharge, hreports⟩ := exists_reportsOnce_build id enumerator tree root options
    refine ⟨sink, fun other => ⟨fun hother => hother.unique hcharge, ?_⟩, hreports⟩
    rintro rfl
    exact hcharge
  · exact reportsOnce_reportFailure loader contract (saysOnly_buildService loader _ contract)
  · exact reportsOnce_reportFailure loader contract (saysOnly_buildPlugins loader _ contract)
  · intro id enumerator tree root options hv
    refine seeksSilently id enumerator tree root fun hdebug => ?_
    rw [hdebug] at hv
    simp at hv

end Loader

end Wiring
