import Wiring.Loader
import Wiring.Settings.Schema

/-!
# Registries

A registry hands out loaders and keeps them under their keys, so that a key is resolved once for all
who ask. It counts how often a kept loader was found and how often one had to be built, and numbers
the loaders it builds. Without a cache every request builds a loader. Every operation yields the
registry after it and what arrived in the log and at sinks.
-/

namespace Wiring

/-! ## The order of keys -/

instance : Std.TransOrd LoaderKey :=
  inferInstanceAs (Std.TransCmp (compareLex (compareOn LoaderKey.contextId)
    (compareOn LoaderKey.root)))

instance : Std.LawfulEqOrd LoaderKey where
  eq_of_compare {a b} h := by
    have h' : compareLex (compareOn LoaderKey.contextId) (compareOn LoaderKey.root) a b = .eq := h
    rw [compareLex, Ordering.then_eq_eq] at h'
    cases a; cases b
    simp only [compareOn, Std.compare_eq_iff_eq] at h'
    simp [h'.1, h'.2]

/-! ## Registries -/

/-- Loaders by key, and the counts of how they came about. -/
structure Registry where
  /-- Whether loaders are kept. -/
  caches : Bool
  /-- The enumerator of requests that name none. -/
  enumerator : Enumerator
  /-- What all loaders have in common. -/
  options : LoaderOptions
  /-- The loaders kept. -/
  loaders : Std.ExtTreeMap LoaderKey Loader
  /-- The number of the next loader, which is the number of builds so far. -/
  nextId : Nat
  /-- How many requests found a loader kept. -/
  hits : Nat
  /-- How many requests found none while loaders are kept. -/
  misses : Nat

namespace Registry

/-- The enumerator of a registry that is given none: the modules are the working directory alone. -/
def defaultEnumerator : Enumerator := .directories ["."]

/-- A new registry. -/
def create (settings : Settings) (enumerator : Enumerator) (factories : FactoryTable) :
    Registry where
  caches := settings.cache
  enumerator := enumerator
  options := ⟨settings.overrides, settings.verbosity, factories⟩
  loaders := ∅
  nextId := 0
  hits := 0
  misses := 0

/-- What is logged about a new registry. -/
def createdEntry (r : Registry) : LogEntry :=
  ⟨.debug, "Building registry",
    [("cache", toString r.caches), ("context_id", r.enumerator.contextId),
      ("implementations", toString r.options.factories.size)]⟩

/-! ## Single accesses -/

/-- Looks for the loader of a key; one that is kept counts as a hit. -/
def find (r : Registry) (key : LoaderKey) : Registry × Option Loader :=
  match r.loaders[key]? with
  | some loader => ({ r with hits := r.hits + 1 }, some loader)
  | none => (r, none)

/-- Counts a request that found no loader. -/
def countMiss (r : Registry) : Registry :=
  { r with misses := r.misses + 1 }

/-- Keeps a loader under a key. -/
def keep (r : Registry) (key : LoaderKey) (loader : Loader) : Registry :=
  { r with loaders := r.loaders.insert key loader }

/-- What is logged about a loader that is kept from now on. -/
def keptEntry (key : LoaderKey) (loader : Loader) : LogEntry :=
  ⟨.info, "Cached loader", [("key", key.text), ("loader_id", toString loader.id)]⟩

/-! ## Requests -/

/-- Builds a loader and keeps it nowhere. -/
def new (r : Registry) (enumerator : Enumerator) (tree : FileTree) (root : String) :
    Registry × Delivered Loader :=
  ({ r with nextId := r.nextId + 1 }, Loader.build r.nextId enumerator tree root r.options)

/-- Builds a loader for a key and keeps it; a build that fails leaves the kept loaders alone. -/
def buildKept (r : Registry) (enumerator : Enumerator) (tree : FileTree) (key : LoaderKey) :
    Registry × Delivered Loader :=
  let (r, built) := r.countMiss.new enumerator tree key.root
  match built.outcome with
  | .error e => (r, ⟨built.deliveries, .error e⟩)
  | .ok loader =>
    (r.keep key loader, ⟨built.deliveries ++ [.logged (keptEntry key loader)], .ok loader⟩)

/-- The loader for a config root as an enumerator shows it: the one kept, or a new one. -/
def get (r : Registry) (enumerator : Enumerator) (tree : FileTree) (root : String) :
    Registry × Delivered Loader :=
  if r.caches then
    let key := LoaderKey.of enumerator.contextId root
    match r.find key with
    | (r, some loader) => (r, ⟨[], .ok loader⟩)
    | (r, none) => r.buildKept enumerator tree key
  else r.new enumerator tree root

/-! ## Forgetting -/

/-- Forgets the loader of a key and yields it. -/
def invalidate (r : Registry) (key : LoaderKey) : Registry × List LogEntry × Option Loader :=
  match r.loaders[key]? with
  | none => (r, [], none)
  | some loader =>
    ({ r with loaders := r.loaders.erase key },
      [⟨.debug, "Invalidated loader", [("key", key.text)]⟩], some loader)

/-- Forgets all loaders. -/
def clear (r : Registry) : Registry × List LogEntry :=
  ({ r with loaders := ∅ },
    [⟨.debug, "Clearing loader cache", [("count", toString r.loaders.size)]⟩])

/-! ## Views -/

/-- The keys of the loaders kept, in ascending order. -/
def keys (r : Registry) : List LoaderKey :=
  r.loaders.keys

/-- What a registry has done so far. -/
structure Stats where
  /-- How many loaders are kept. -/
  cached : Nat
  /-- How many loaders were built. -/
  built : Nat
  /-- How many requests found a loader kept. -/
  hits : Nat
  /-- How many requests found none. -/
  misses : Nat
  /-- Whether loaders are kept. -/
  caches : Bool
deriving DecidableEq, Repr

/-- What a registry has done so far. -/
def stats (r : Registry) : Stats :=
  ⟨r.loaders.size, r.nextId, r.hits, r.misses, r.caches⟩

/-- The counts as they are shown. -/
def Stats.text (s : Stats) : String :=
  let switch := if s.caches then "on" else "off"
  s!"Loaders: {s.cached} cached, {s.built} built " ++
    s!"({s.hits} hits, {s.misses} misses, cache {switch})"

/-- The counts as they are shown in a debugging description. -/
def Stats.describe (s : Stats) : String :=
  s!"RegistryStats \x7b cached: {s.cached}, built: {s.built}, hits: {s.hits}, " ++
    s!"misses: {s.misses}, cache_enabled: {s.caches} \x7d"

/-- The registry as it is shown in a debugging description. -/
def describe (r : Registry) : String :=
  let context := Text.quoted r.enumerator.contextId
  s!"SpiRegistry \x7b context_id: {context}, stats: {r.stats.describe}, .. \x7d"

end Registry

end Wiring
