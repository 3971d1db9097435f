import Wiring.Proofs.Instantiation.Group
import Wiring.Proofs.Loader
import Wiring.Proofs.Records.Kept

/-!
# Loaders · What constructors are handed

Contents enter on two ways. Records are read of resources that are listed and not excluded
(`Records.Kept`). Parameters are read while objects are built: of the first resource of the group
that is listed at the parameter file, and nothing asks whether it is excluded. `LeadsTo` names that
resource, and `HandsOver` says that what it holds is what a constructor is called with. A successful
call builds one object for each of certain declarations (`Builds`): the service that is chosen for
the contract, the plugins in their order, or the sink. Main statement: such a call hands over
nothing of an excluded resource exactly when no declaration that it builds leads to one
(`handed_regardless`).
-/

namespace Wiring

/-! ## One declaration -/

namespace Declaration

/-- Whether the one constructor under the name of a declaration takes parameters. -/
def TakesParameters (d : Declaration) (factories : FactoryTable)
    (build : Parameters → Except String Instance) : Prop :=
  ∃ registration, factories.lookup d.implementation.name = [registration] ∧
    registration.constructor = .parameters build

/-- Whether a resource is the one that the argument of a declaration leads to: the first one of the
group among those at the parameter file. -/
def LeadsTo (d : Declaration) (view : View) (resource : Resource) : Prop :=
  ∃ file resources, d.parameterFile? = some file ∧ staysBelow file = true ∧
    view.find (d.root ++ (parameterDirectory ++ file)) = .ok resources ∧
    d.inGroup? resources = some resource

/-- Whether the constructor of a declaration is handed what a resource holds. -/
structure HandsOver (d : Declaration) (view : View) (factories : FactoryTable)
    (resource : Resource) : Prop where
  /-- The argument leads to the resource. -/
  leadsTo : d.LeadsTo view resource
  /-- The resource can be decoded, and the constructor is called with its values: what is built, for
  whatever contract, is what the constructor makes of them. -/
  called : ∃ build properties, d.TakesParameters factories build ∧
    Properties.ofBytes resource.bytes resource.location.text = .ok properties ∧
    ∀ contract, (d.instantiate view factories contract).outcome =
      (d.accept contract (build (.ofProperties properties resource.location))).mapError
        .instantiation

/-- Whether the constructor of a declaration that names no parameter file is called with no values,
read from nowhere. -/
structure HandsNothing (d : Declaration) (view : View) (factories : FactoryTable) : Prop where
  /-- No file is named. -/
  unnamed : d.parameterFile? = none
  /-- The constructor is called with no values. -/
  called : ∃ build, d.TakesParameters factories build ∧
    ∀ contract, (d.instantiate view factories contract).outcome =
      (d.accept contract (build .empty)).mapError .instantiation

variable {d : Declaration} {view : View} {factories : FactoryTable} {contract : String}
  {resource : Resource} {object : Instance}

/-- An argument leads to one resource at most. -/
theorem LeadsTo.unique {other : Resource} (h : d.LeadsTo view resource)
    (hother : d.LeadsTo view other) : resource = other := by
  obtain ⟨file, resources, hfile, -, hfind, hfirst⟩ := h
  obtain ⟨file', resources', hfile', -, hfind', hfirst'⟩ := hother
  obtain rfl := Option.some.inj (hfile.symm.trans hfile')
  obtain rfl := Except.ok.inj (hfind.symm.trans hfind')
  exact Option.some.inj (hfirst.symm.trans hfirst')

/-- What is read from a resource are its values. -/
theorem readFrom_eq_ok_iff {file : String} {found : Option Resource} {parameters : Parameters} :
    d.readFrom file found = .ok parameters ↔
      ∃ resource properties, found = some resource ∧
        Properties.ofBytes resource.bytes resource.location.text = .ok properties ∧
        parameters = .ofProperties properties resource.location := by
  cases found with
  | none => simp [readFrom]
  | some resource =>
    unfold readFrom
    dsimp only
    cases hproperties : Properties.ofBytes resource.bytes resource.location.text with
    | error e => simp [hproperties]
    | ok properties => simp [hproperties, @eq_comm _ parameters]

/-- What is read for a file are the values of the first resource of the group that is listed
there. -/
theorem outcome_readParameters_eq_ok_iff {file : String} {parameters : Parameters} :
    (d.readParameters view file).outcome = .ok parameters ↔
      ∃ resources resource properties,
        view.find (d.root ++ (parameterDirectory ++ file)) = .ok resources ∧
        d.inGroup? resources = some resource ∧
        Properties.ofBytes resource.bytes resource.location.text = .ok properties ∧
        parameters = .ofProperties properties resource.location := by
  rw [outcome_readParameters, bind_eq_ok_iff]
  simp only [mapError_eq_ok_iff, readFrom_eq_ok_iff, exists_and_left]

/-- **What parameters are**: no values where no file is named, else what the resource holds that the
argument leads to, be it excluded or not. -/
theorem outcome_parameters_eq_ok_iff {parameters : Parameters} :
    (d.parameters view).outcome = .ok parameters ↔
      (d.parameterFile? = none ∧ parameters = .empty) ∨
      ∃ resource properties, d.LeadsTo view resource ∧
        Properties.ofBytes resource.bytes resource.location.text = .ok properties ∧
        parameters = .ofProperties properties resource.location := by
  unfold Declaration.parameters LeadsTo
  dsimp only
  cases hfile : d.parameterFile? with
  | none =>
    show (Except.ok Parameters.empty : Except Error Parameters) = .ok parameters ↔ _
    simp [@eq_comm _ parameters]
  | some file =>
    dsimp only
    split
    · next hbelow =>
      rw [outcome_readParameters_eq_ok_iff]
      constructor
      · rintro ⟨resources, resource, properties, hfind, hfirst, hread⟩
        exact .inr ⟨resource, properties, ⟨file, resources, rfl, hbelow, hfind, hfirst⟩, hread⟩
      · rintro (⟨hnone, -⟩ | ⟨resource, properties, ⟨_, resources, ⟨⟩, -, hfind, hfirst⟩, hread⟩)
        · cases hnone
        · exact ⟨resources, resource, properties, hfind, hfirst, hread⟩
    · next hbelow =>
      -- a file that leads out of the directory is refused
      constructor
      · intro hfails
        cases hfails
      · rintro (⟨hnone, -⟩ | ⟨_, _, ⟨_, _, ⟨⟩, hstays, -⟩, -⟩)
        · cases hnone
        · exact absurd hstays hbelow

/-- Wherever an object comes out of a constructor that takes parameters, they were there. -/
theorem exists_parameters_of_instantiate {build : Parameters → Except String Instance}
    (h : (d.instantiate view factories contract).outcome = .ok object)
    (htakes : d.TakesParameters factories build) :
    ∃ parameters, (d.parameters view).outcome = .ok parameters ∧
      ∀ contract, (d.instantiate view factories contract).outcome =
        (d.accept contract (build parameters)).mapError .instantiation := by
  obtain ⟨registration, hlookup, hconstructor⟩ := htakes
  have hcalled := outcome_instantiate_parameters hlookup hconstructor view
  obtain ⟨parameters, hparameters, -⟩ := bind_eq_ok_iff.1 ((hcalled contract).symm.trans h)
  refine ⟨parameters, hparameters, fun contract' => ?_⟩
  rw [hcalled, hparameters]
  rfl

/-- **Every set of parameters is accounted for**: where an object comes out of a constructor that
takes parameters, it was called with no values or with what some resource holds. -/
theorem handsNothing_or_handsOver {build : Parameters → Except String Instance}
    (h : (d.instantiate view factories contract).outcome = .ok object)
    (htakes : d.TakesParameters factories build) :
    d.HandsNothing view factories ∨ ∃ resource, d.HandsOver view factories resource := by
  obtain ⟨parameters, hparameters, hcalled⟩ := exists_parameters_of_instantiate h htakes
  obtain ⟨hnone, rfl⟩ | ⟨resource, properties, hleads, hproperties, rfl⟩ :=
    outcome_parameters_eq_ok_iff.1 hparameters
  · exact .inl ⟨hnone, build, htakes, hcalled⟩
  · exact .inr ⟨resource, hleads, build, properties, htakes, hproperties, hcalled⟩

/-- **A constructor is handed what the argument leads to**, be it excluded or not, wherever an
object comes out of it. -/
theorem handsOver_iff (h : (d.instantiate view factories contract).outcome = .ok object) :
    d.HandsOver view factories resource ↔
      (∃ build, d.TakesParameters factories build) ∧ d.LeadsTo view resource := by
  constructor
  · rintro ⟨hleads, build, -, htakes, -⟩
    exact ⟨⟨build, htakes⟩, hleads⟩
  · rintro ⟨⟨build, htakes⟩, hleads⟩
    obtain hnothing | ⟨other, hother⟩ := handsNothing_or_handsOver h htakes
    · obtain ⟨file, -, hfile, -⟩ := hleads
      cases hnothing.unnamed.symm.trans hfile
    · exact hleads.unique hother.leadsTo ▸ hother

end Declaration

/-! ## The declarations that a call builds -/

/-- `objects` are what a list of declarations builds, one for each. -/
def Builds (view : View) (factories : FactoryTable) (contract : String) (ds : List Declaration)
    (objects : List Instance) : Prop :=
  List.Forall₂ (fun d object => (d.instantiate view factories contract).outcome = .ok object) ds
    objects

namespace Resolved

/-- The declaration of the service that is chosen for a contract, if there is one. -/
def chosen (resolved : Resolved) (contract : String) : List Declaration :=
  resolved.services[contract]?.toList.map fun choice => choice.applied.declaration

/-- The declarations of the plugins of a contract, in their order. -/
def ordered (resolved : Resolved) (contract : String) : List Declaration :=
  (resolved.plugins[contract]?.toList.flatMap PluginOrder.ordered).map
    PluginDefinition.declaration

/-- Whether decisions were made about records that stem from resources that are not excluded. -/
def StemsFromKept (view : View) (root : String) (overrides : Overrides) (resolved : Resolved) :
    Prop :=
  ∃ records, (Records.readAll view overrides (normalizeRoot root)).outcome = .ok records ∧
    (ofRecords (normalizeRoot root) records overrides).outcome = .ok resolved ∧
    records.Kept view overrides (normalizeRoot root)

/-- **Decisions are made about kept records.** -/
theorem stemsFromKept_of_load {view : View} {root : String} {overrides : Overrides}
    {resolved : Resolved} (h : (load view root overrides).outcome = .ok resolved) :
    resolved.StemsFromKept view root overrides := by
  obtain ⟨records, hread, hresolved⟩ := Report.outcome_bind_eq_ok_iff.1 h
  exact ⟨records, hread, hresolved, Records.kept_of_readAll hread⟩

end Resolved

namespace Loader

variable {view : View} {loader : Loader} {options : LoaderOptions} {contract : String}

/-- **The sink is the object of the service** that is chosen below the sink root. -/
theorem outcome_readSink_eq_ok_iff {sink : Option Sink} :
    (readSink view options).outcome = .ok sink ↔
      ∃ resolved objects,
        (Resolved.load view sinkRoot options.overrides).outcome = .ok resolved ∧
        Builds view options.factories sinkContract (resolved.chosen sinkContract) objects ∧
        sink = objects.head?.map fun object => .labelled object.label := by
  unfold readSink
  rw [Report.outcome_bind_eq_ok_iff]
  refine exists_congr fun resolved => ?_
  rw [exists_and_left]
  refine and_congr_right fun _ => ?_
  unfold Builds Resolved.chosen
  cases resolved.services[sinkContract]? with
  | none => simp [eq_comm]
  | some choice =>
    simp only [Option.toList_some, List.map_cons, List.map_nil, List.forall₂_cons_left_iff,
      List.forall₂_nil_left_iff, Report.outcome_bind_eq_ok_iff]
    constructor
    · rintro ⟨object, hobject, -, -, hsink⟩
      exact ⟨[object], ⟨object, [], hobject, rfl, rfl⟩, (Except.ok.inj hsink).symm⟩
    · rintro ⟨_, ⟨object, _, hobject, rfl, rfl⟩, rfl⟩
      exact ⟨object, hobject, (), rfl, rfl⟩

/-- **The object of a contract** is that of the chosen service. -/
theorem outcome_loadService_eq_ok_iff {tree : FileTree} {object : Option Instance} :
    (loader.loadService tree contract).outcome = .ok object ↔
      ∃ objects, Builds (loader.enumerator.view tree) loader.factories contract
        (loader.resolved.chosen contract) objects ∧ object = objects.head? := by
  unfold loadService reportFailure
  rw [Delivered.outcome_onError, Delivered.outcome_run, buildService]
  unfold Builds Resolved.chosen
  cases loader.resolved.services[contract]? with
  | none =>
    show (Except.ok none : Except Error (Option Instance)) = .ok object ↔ _
    simp [eq_comm]
  | some choice =>
    simp only [Option.toList_some, List.map_cons, List.map_nil, List.forall₂_cons_left_iff,
      List.forall₂_nil_left_iff, Report.outcome_bind_eq_ok_iff]
    constructor
    · rintro ⟨built, hbuilt, -, -, hobject⟩
      exact ⟨[built], ⟨built, [], hbuilt, rfl, rfl⟩, (Except.ok.inj hobject).symm⟩
    · rintro ⟨_, ⟨built, _, hbuilt, rfl, rfl⟩, rfl⟩
      exact ⟨built, hbuilt, (), rfl, rfl⟩

/-- **The plugins of a contract** are the objects of all its plugins, in order. -/
theorem outcome_loadPlugins_eq_ok_iff {tree : FileTree} {objects : List Instance} :
    (loader.loadPlugins tree contract).outcome = .ok objects ↔
      Builds (loader.enumerator.view tree) loader.factories contract
        (loader.resolved.ordered contract) objects := by
  unfold loadPlugins reportFailure
  rw [Delivered.outcome_onError, Delivered.outcome_run, buildPlugins]
  unfold Builds Resolved.ordered
  cases loader.resolved.plugins[contract]? with
  | none =>
    show (Except.ok [] : Except Error (List Instance)) = .ok objects ↔ _
    simp [eq_comm]
  | some order =>
    simp only [Option.toList_some, List.flatMap_cons, List.flatMap_nil, List.append_nil,
      List.forall₂_map_left_iff]
    rw [← mapM_eq_ok_iff, ← Report.outcome_mapM, Report.outcome_bind_eq_ok_iff]
    -- what is said of the plugins afterwards never fails
    have hsaid : ((order.ordered.take listedPlugins).forM fun d =>
        Report.say .info s!"Plugin loaded: {contract} => {d}").outcome = .ok () :=
      Report.outcome_forM_ok (fun _ => rfl) _
    have hrest (built : List Instance) : ((order.ordered.take listedPlugins).forM (fun d =>
          Report.say .info s!"Plugin loaded: {contract} => {d}") >>= fun _ => do
        let rest := built.length - listedPlugins
        if 0 < rest then .say .info s!"Plugin loaded: {contract} => ... {rest} more"
        return built).outcome = .ok built := by
      rw [Report.outcome_bind_eq, hsaid]
      show (if 0 < built.length - listedPlugins then _ else _ : Report (List Instance)).outcome = _
      split <;> rfl
    constructor
    · rintro ⟨built, hbuilt, hdone⟩
      rw [hrest built] at hdone
      rwa [← Except.ok.inj hdone]
    · exact fun hbuilt => ⟨objects, hbuilt, hrest objects⟩

/-! ## Main statement -/

/-- Whether a list of declarations, all of which are built, hands over nothing of an excluded
resource. -/
def Spares (view : View) (factories : FactoryTable) (overrides : Overrides)
    (ds : List Declaration) : Prop :=
  ∀ d ∈ ds, ∀ resource, d.HandsOver view factories resource →
    resource.fingerprint ∉ overrides.excluded

/-- Whether none of a list of declarations leads its constructor to an excluded resource. -/
def LeadsPast (view : View) (factories : FactoryTable) (overrides : Overrides)
    (ds : List Declaration) : Prop :=
  ∀ d ∈ ds, ∀ build, d.TakesParameters factories build → ∀ resource, d.LeadsTo view resource →
    resource.fingerprint ∉ overrides.excluded

/-- What becomes of exclusion where all declarations of a list are built. -/
structure HandsRegardless (view : View) (factories : FactoryTable) (overrides : Overrides)
    (ds : List Declaration) : Prop where
  /-- A constructor that takes parameters is called with no values or with what a resource holds. -/
  accounted : ∀ d ∈ ds, ∀ build, d.TakesParameters factories build →
    d.HandsNothing view factories ∨ ∃ resource, d.HandsOver view factories resource
  /-- Nothing of an excluded resource is handed over exactly when none is led to. -/
  spares_iff : Spares view factories overrides ds ↔ LeadsPast view factories overrides ds

/-- **Exclusion plays no part** in what declarations that are built hand over. -/
theorem handsRegardless_of_builds {factories : FactoryTable} {overrides : Overrides}
    {ds : List Declaration} {objects : List Instance}
    (h : Builds view factories contract ds objects) :
    HandsRegardless view factories overrides ds := by
  have hbuilt : ∀ d ∈ ds, ∃ object, (d.instantiate view factories contract).outcome = .ok object :=
    exists_forall₂_iff.1 ⟨objects, h⟩
  refine ⟨fun d hd build htakes => ?_, ?_, ?_⟩
  · obtain ⟨object, hobject⟩ := hbuilt d hd
    exact Declaration.handsNothing_or_handsOver hobject htakes
  · intro hspares d hd build htakes resource hleads
    obtain ⟨object, hobject⟩ := hbuilt d hd
    exact hspares d hd resource
      ((Declaration.handsOver_iff hobject).2 ⟨⟨build, htakes⟩, hleads⟩)
  · intro hpast d hd resource hhands
    obtain ⟨build, -, htakes, -⟩ := hhands.called
    exact hpast d hd build htakes resource hhands.leadsTo

/-- **Exclusion keeps records out and lets parameters in.** The decisions of a loader that was
built, and those about its sink, are about records that stem from resources that are not excluded.
The building of its sink and every later call of it that succeeds hand constructors nothing of an
excluded resource exactly when no declaration that is built leads to one. -/
theorem handed_regardless {id : Nat} {enumerator : Enumerator} {tree : FileTree} {root : String}
    (h : (build id enumerator tree root options).outcome = .ok loader) :
    loader.resolved.StemsFromKept (enumerator.view tree) (normalizeRoot root) options.overrides ∧
    (loader.key.root ≠ sinkRoot → ∃ resolved : Resolved,
      resolved.StemsFromKept (enumerator.view tree) sinkRoot options.overrides ∧
      HandsRegardless (enumerator.view tree) options.factories options.overrides
        (resolved.chosen sinkContract)) ∧
    (∀ later contract object, (loader.loadService later contract).outcome = .ok object →
      HandsRegardless (enumerator.view later) options.factories options.overrides
        (loader.resolved.chosen contract)) ∧
    ∀ later contract objects, (loader.loadPlugins later contract).outcome = .ok objects →
      HandsRegardless (enumerator.view later) options.factories options.overrides
        (loader.resolved.ordered contract) := by
  obtain ⟨sink, resolved, hsink, hresolved, rfl⟩ := outcome_build_eq_ok_iff.1 h
  refine ⟨Resolved.stemsFromKept_of_load hresolved, ?_, ?_, ?_⟩
  · intro hroot
    rw [sinkFor, if_neg hroot] at hsink
    obtain ⟨ofSink, objects, hload, hbuilds, -⟩ := outcome_readSink_eq_ok_iff.1 hsink
    exact ⟨ofSink, Resolved.stemsFromKept_of_load hload, handsRegardless_of_builds hbuilds⟩
  · intro later contract object hservice
    obtain ⟨objects, hbuilds, -⟩ := outcome_loadService_eq_ok_iff.1 hservice
    exact handsRegardless_of_builds hbuilds
  · intro later contract objects hplugins
    exact handsRegardless_of_builds (outcome_loadPlugins_eq_ok_iff.1 hplugins)

/-! ## A parameter file that is excluded -/

/-- A module with one service definition, whose constructor takes parameters, and their file. -/
def secretive : Enumerator :=
  .embedded "test" [⟨"a", "META-INF/spi/service.properties", "g>x>library=c(p)".toUTF8⟩,
    ⟨"a", "META-INF/spi/parameter/p", "k=secret".toUTF8⟩]

/-- The parameter file as it is listed. -/
def secret : Resource :=
  ⟨⟨"embedded:a/META-INF/spi/parameter/p"⟩, "k=secret".toUTF8⟩

/-- Options under which the content of the parameter file is excluded. -/
def withoutSecret : LoaderOptions :=
  ⟨⟨∅, ∅, .ofNames [secret.fingerprint]⟩, .error, Declaration.showing⟩

/-- A loader of the module. -/
theorem exists_build_secretive :
    ∃ loader, (build 0 secretive ⟨[], ∅, ∅⟩ "" withoutSecret).outcome = .ok loader ∧
      loader.resolved.chosen "g" = [Declaration.ofModuleA] ∧
      (loader.loadService ⟨[], ∅, ∅⟩ "g").outcome = .ok (some ⟨"g", "secret"⟩) := by
  have hshown : ((build 0 secretive ⟨[], ∅, ∅⟩ "" withoutSecret).outcome.map fun loader =>
      (loader.resolved.chosen "g", (loader.loadService ⟨[], ∅, ∅⟩ "g").outcome)) =
      .ok ([Declaration.ofModuleA], .ok (some ⟨"g", "secret"⟩)) := by decide +kernel
  cases hbuild : (build 0 secretive ⟨[], ∅, ∅⟩ "" withoutSecret).outcome with
  | error e =>
    rw [hbuild] at hshown
    cases hshown
  | ok loader =>
    rw [hbuild] at hshown
    obtain ⟨hchosen, hservice⟩ := Prod.mk.inj (Except.ok.inj hshown)
    exact ⟨loader, rfl, hchosen, hservice⟩

/-- **An excluded file is handed over**: the service of the module shows what its parameter file
says, although the content of that file is excluded. -/
theorem secret_handed_over :
    ∃ loader, (build 0 secretive ⟨[], ∅, ∅⟩ "" withoutSecret).outcome = .ok loader ∧
      secret.fingerprint ∈ withoutSecret.overrides.excluded ∧
      (loader.loadService ⟨[], ∅, ∅⟩ "g").outcome = .ok (some ⟨"g", "secret"⟩) ∧
      Declaration.ofModuleA.HandsOver (secretive.view ⟨[], ∅, ∅⟩) withoutSecret.factories secret ∧
      ¬Spares (secretive.view ⟨[], ∅, ∅⟩) withoutSecret.factories withoutSecret.overrides
        (loader.resolved.chosen "g") := by
  obtain ⟨loader, hbuild, hchosen, hservice⟩ := exists_build_secretive
  have hexcluded : secret.fingerprint ∈ withoutSecret.overrides.excluded :=
    NameSet.mem_ofNames.2 List.mem_cons_self
  have hobject : (Declaration.ofModuleA.instantiate (secretive.view ⟨[], ∅, ∅⟩)
      withoutSecret.factories "g").outcome = .ok ⟨"g", "secret"⟩ := by decide +kernel
  have hleads : Declaration.ofModuleA.LeadsTo (secretive.view ⟨[], ∅, ∅⟩) secret :=
    ⟨"p", [secret], by decide +kernel, by decide +kernel, rfl,
      List.find?_cons_of_pos (by decide +kernel)⟩
  have hhands := (Declaration.handsOver_iff hobject).2 ⟨⟨Declaration.showK, _, rfl, rfl⟩, hleads⟩
  refine ⟨loader, hbuild, hexcluded, hservice, hhands, fun hspares => ?_⟩
  exact hspares _ (hchosen ▸ List.mem_cons_self) secret hhands hexcluded

/-- What is said of a loader of that module. -/
theorem handed_regardless_secretive :
    ∃ loader, (build 0 secretive ⟨[], ∅, ∅⟩ "" withoutSecret).outcome = .ok loader ∧
      (loader.loadService ⟨[], ∅, ∅⟩ "g").outcome = .ok (some ⟨"g", "secret"⟩) ∧
      HandsRegardless (secretive.view ⟨[], ∅, ∅⟩) withoutSecret.factories withoutSecret.overrides
        (loader.resolved.chosen "g") := by
  obtain ⟨loader, hbuild, -, hservice⟩ := exists_build_secretive
  obtain ⟨-, -, hservices, -⟩ := handed_regardless hbuild
  exact ⟨loader, hbuild, hservice, hservices ⟨[], ∅, ∅⟩ "g" _ hservice⟩

end Loader

end Wiring
