import Wiring.Catalogue
import Wiring.Diagnostics.Delivery
import Wiring.Instantiation.Build
import Wiring.Resolution.Resolved
import Wiring.Text.Quoted

/-!
# Loaders

A loader holds the decisions below one config root, as seen through one enumerator, and builds the
chosen objects on request; objects are never kept. Before a loader is built, a service of the sink
contract is looked for below a root of its own; where there is one, the loader's notes go there and
not to the process log.
-/

namespace Wiring

/-! ## Keys -/

/-- What identifies a cached loader. -/
structure LoaderKey where
  /-- The context of the enumerator. -/
  contextId : String
  /-- The config root in normal form. -/
  root : String
deriving DecidableEq, Repr

namespace LoaderKey

/-- The key of a config root in a context. -/
def of (contextId root : String) : LoaderKey :=
  ⟨contextId, normalizeRoot root⟩

/-- The key as it is shown. -/
def text (key : LoaderKey) : String :=
  s!"{key.contextId}!/{key.root}"

/-- Keys are ordered by context, then by root. -/
instance : Ord LoaderKey where
  compare := compareLex (compareOn contextId) (compareOn root)

end LoaderKey

/-! ## Work that is delivered -/

/-- What arrived somewhere, in order, and a result. -/
structure Delivered (α : Type) where
  /-- What arrived. -/
  deliveries : List Delivery
  /-- The result. -/
  outcome : Except Error α

/-- Hands the events of a report over. -/
def Diagnostics.run {α : Type} (d : Diagnostics) (report : Report α) : Delivered α :=
  ⟨d.deliver report.events, report.outcome⟩

/-- One piece of work after another; an error of the first ends both. -/
def Delivered.bind {α β : Type} (first : Delivered α) (next : α → Delivered β) : Delivered β :=
  match first.outcome with
  | .error e => ⟨first.deliveries, .error e⟩
  | .ok a => let second := next a; ⟨first.deliveries ++ second.deliveries, second.outcome⟩

/-- Adds what arrives when the work has failed. -/
def Delivered.onError {α : Type} (work : Delivered α) (say : Error → List Delivery) :
    Delivered α :=
  match work.outcome with
  | .error e => ⟨work.deliveries ++ say e, .error e⟩
  | .ok a => ⟨work.deliveries, .ok a⟩

/-! ## Loaders -/

/-- What all loaders of a registry have in common. -/
structure LoaderOptions where
  /-- Decisions made outside the configuration. -/
  overrides : Overrides
  /-- How much is shown. -/
  verbosity : Verbosity
  /-- What can be built. -/
  factories : FactoryTable

/-- The decisions below one config root, ready to build objects. -/
structure Loader where
  /-- The number of the loader within its registry. -/
  id : Nat
  /-- What identifies it. -/
  key : LoaderKey
  /-- The decisions. -/
  resolved : Resolved
  /-- Where parameters are looked for. -/
  enumerator : Enumerator
  /-- What can be built. -/
  factories : FactoryTable
  /-- Where it speaks. -/
  diagnostics : Diagnostics

/-- Where a chosen service is declared. -/
def ServiceDefinition.declaration (d : ServiceDefinition) : Declaration :=
  ⟨d.implementation, d.root, d.source⟩

/-- Where a plugin is declared. -/
def PluginDefinition.declaration (d : PluginDefinition) : Declaration :=
  ⟨d.implementation, d.root, d.source⟩

namespace Loader

/-! ## Building a loader -/

/-- The sink that is configured below the sink root, if any. -/
def readSink (view : View) (options : LoaderOptions) : Report (Option Sink) := do
  let resolved ← Resolved.load view sinkRoot options.overrides
  match resolved.services[sinkContract]? with
  | none => return none
  | some choice =>
    let object ← choice.applied.declaration.instantiate view options.factories sinkContract
    .say .debug s!"Diagnostic sink applied: {choice.applied}"
    return some (.labelled object.label)

/-- The verbosity at which a sink is looked for: progress is shown only in full detail. -/
def sinkVerbosity : Verbosity → Verbosity
  | .debug => .debug
  | _ => .error

/-- The handle of a new loader: to the configured sink where there is one, else to the log. The
loader of the sink root itself has no configured sink. -/
def openDiagnostics (id : Nat) (key : LoaderKey) (view : View) (options : LoaderOptions) :
    Delivered Diagnostics :=
  let toLog : Diagnostics := ⟨id, options.verbosity, .log⟩
  if key.root = sinkRoot then ⟨[], .ok toLog⟩
  else
    let early : Diagnostics := ⟨id, sinkVerbosity options.verbosity, .log⟩
    let sought := (early.run (readSink view options)).onError fun e =>
      toLog.say .error s!"Diagnostic sink failed: {e.message}"
    sought.bind fun sink => ⟨[], .ok { toLog with sink := sink.getD .log }⟩

/-- Reads and resolves a root and says what came of it. -/
def resolveRoot (id : Nat) (key : LoaderKey) (view : View) (options : LoaderOptions) :
    Report Resolved := do
  .say .debug s!"Loader {id} building {key.text}"
  let resolved ← Resolved.load view key.root options.overrides
  .say .info <| s!"Loader {id} ready: {resolved.services.size} service contract(s), " ++
    s!"{resolved.plugins.size} plugin contract(s), from {key.text}"
  return resolved

/-- Builds the loader with a number for a config root as an enumerator shows it. -/
def build (id : Nat) (enumerator : Enumerator) (tree : FileTree) (root : String)
    (options : LoaderOptions) : Delivered Loader :=
  let key := LoaderKey.of enumerator.contextId root
  let view := enumerator.view tree
  (openDiagnostics id key view options).bind fun diagnostics =>
    let resolved := (diagnostics.run (resolveRoot id key view options)).onError fun e =>
      diagnostics.say .error s!"Loader {id} failed on {key.text}: {e.message}"
    resolved.bind fun resolved =>
      ⟨[], .ok ⟨id, key, resolved, enumerator, options.factories, diagnostics⟩⟩

/-! ## Building objects -/

/-- Says that the objects of a contract could not be built. -/
def reportFailure {α : Type} (loader : Loader) (contract : String) (work : Delivered α) :
    Delivered α :=
  work.onError fun e =>
    loader.diagnostics.say .error s!"Failed to load {contract}: {e.message}"

/-- Builds the object of a chosen service. -/
def buildService (loader : Loader) (view : View) (contract : String) :
    Report (Option Instance) := do
  match loader.resolved.services[contract]? with
  | none =>
    .say .debug s!"No service definitions for {contract}"
    return none
  | some choice =>
    let object ← choice.applied.declaration.instantiate view loader.factories contract
    .say .info s!"Service loaded: {contract} => {choice.applied}"
    return some object

/-- Builds the chosen service of a contract; there is none where none is defined. -/
def loadService (loader : Loader) (tree : FileTree) (contract : String) :
    Delivered (Option Instance) :=
  loader.reportFailure contract
    (loader.diagnostics.run (loader.buildService (loader.enumerator.view tree) contract))

/-- Builds the enabled plugins of a contract, in order. -/
def buildPlugins (loader : Loader) (view : View) (contract : String) :
    Report (List Instance) := do
  match loader.resolved.plugins[contract]? with
  | none =>
    .say .debug s!"No plugin definitions for {contract}"
    return []
  | some order =>
    let objects ← order.ordered.mapM fun d =>
      d.declaration.instantiate view loader.factories contract
    (order.ordered.take listedPlugins).forM fun d =>
      .say .info s!"Plugin loaded: {contract} => {d}"
    let rest := objects.length - listedPlugins
    if 0 < rest then .say .info s!"Plugin loaded: {contract} => ... {rest} more"
    return objects

/-- Builds the plugins of a contract; one that cannot be built fails them all. -/
def loadPlugins (loader : Loader) (tree : FileTree) (contract : String) :
    Delivered (List Instance) :=
  loader.reportFailure contract
    (loader.diagnostics.run (loader.buildPlugins (loader.enumerator.view tree) contract))

/-! ## Views -/

/-- Whether two loaders are the same in everything that was decided. -/
def same (a b : Loader) : Bool :=
  a.key = b.key && a.resolved = b.resolved

/-- The loader as it is shown in a debugging description. -/
def describe (loader : Loader) : String :=
  let context := Text.quoted loader.key.contextId
  let root := Text.quoted loader.key.root
  s!"Loader \x7b id: {loader.id}, " ++
    s!"key: LoaderKey \x7b context_id: {context}, config_root: {root} \x7d, " ++
    s!"services: {loader.resolved.services.size}, plugins: {loader.resolved.plugins.size}, " ++
    ".. \x7d"

end Loader

end Wiring
