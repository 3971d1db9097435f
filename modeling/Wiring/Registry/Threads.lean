import Wiring.Registry

/-!
# Registries · Threads

Several threads may call one registry at the same time. A call is made of single accesses: the table
of loaders is locked for one look-up, one insertion or one removal, and a counter is changed in one
step; between two accesses of a call other threads may come in. A loader is looked for without the
build lock, and where none is kept, once more with it; the lock is held until the loader that was
built is kept or its build has failed. Removals do not take it.

`Moves` says which access comes next in a call and where the call goes from there, and `Run` what
threads can do together, as the sequence of their accesses. What building a loader comes to is left
open (`Builder`): files may change while they are read, and any build may fail.
-/

namespace Wiring.Registry

/-! ## Calls -/

/-- A call that a thread makes. -/
inductive Call
  /-- Asks for the loader of a root. -/
  | get (enumerator : Enumerator) (root : String)
  /-- Asks for a new loader. -/
  | new (enumerator : Enumerator) (root : String)
  /-- Has the loader of a key forgotten. -/
  | invalidate (key : LoaderKey)
  /-- Has all loaders forgotten. -/
  | clear

/-- What a call returns. -/
inductive Answer
  /-- A loader, or why there is none. -/
  | loader (outcome : Except Error Loader)
  /-- The loader that is forgotten, if there was one. -/
  | removed (loader : Option Loader)
  /-- Nothing. -/
  | cleared

/-- How far a call has come: what it does next, and what it carries there. `locked` says whether it
holds the build lock. -/
inductive Point
  /-- Looks for a loader. -/
  | looking (locked : Bool)
  /-- Counts that it has found one. -/
  | hitting (locked : Bool) (loader : Loader)
  /-- Takes the build lock. -/
  | waiting
  /-- Counts that it has found none. -/
  | missing
  /-- Takes a number for a loader. -/
  | numbering (locked : Bool)
  /-- Builds the loader with a number. -/
  | building (locked : Bool) (id : Nat)
  /-- Keeps what it has built. -/
  | keeping (loader : Loader)
  /-- Gives the build lock back. -/
  | releasing (outcome : Except Error Loader)
  /-- Removes one loader or all. -/
  | removing
  /-- Returns. -/
  | answering (answer : Answer)

namespace Point

/-- Where a call goes that knows its result. -/
def leave (locked : Bool) (outcome : Except Error Loader) : Point :=
  if locked then releasing outcome else answering (.loader outcome)

/-- Where a call goes that has built: a loader that was built with the lock is to be kept. -/
def built : Bool → Except Error Loader → Point
  | true, .ok loader => keeping loader
  | locked, outcome => leave locked outcome

end Point

namespace Call

/-- Where a call begins: without a cache every loader is a new one. -/
def entry (caches : Bool) : Call → Point
  | get _ _ => if caches then .looking false else .numbering false
  | new _ _ => .numbering false
  | invalidate _ => .removing
  | clear => .removing

/-- The enumerator and the root of a call that asks for a loader. -/
def asked? : Call → Option (Enumerator × String)
  | get enumerator root => some (enumerator, root)
  | new enumerator root => some (enumerator, root)
  | _ => none

end Call

/-- What a thread is doing. -/
inductive Stage
  /-- No call is in progress. -/
  | idle
  /-- A call has come to a point. -/
  | busy (call : Call) (point : Point)

/-! ## Accesses -/

/-- A single access, with what was found. -/
inductive Action
  /-- A call begins. -/
  | start (call : Call)
  /-- The table is looked up. -/
  | look (key : LoaderKey) (found : Option Loader)
  /-- A kept loader is counted. -/
  | countHit
  /-- The build lock is taken. -/
  | acquire
  /-- A loader that was not kept is counted. -/
  | countMiss
  /-- A number is taken. -/
  | number (id : Nat)
  /-- A loader is built. -/
  | build (id : Nat) (outcome : Except Error Loader)
  /-- A loader is put into the table. -/
  | keep (key : LoaderKey) (loader : Loader)
  /-- The build lock is given back. -/
  | release
  /-- A loader is taken out of the table. -/
  | remove (key : LoaderKey) (removed : Option Loader)
  /-- The table is emptied. -/
  | clear
  /-- A call returns. -/
  | answer (call : Call) (answer : Answer)

namespace Action

/-- What an access does to the registry. -/
def apply (r : Registry) : Action → Registry
  | countHit => { r with hits := r.hits + 1 }
  | countMiss => r.countMiss
  | number _ => { r with nextId := r.nextId + 1 }
  | keep key loader => r.keep key loader
  | remove key _ => (r.invalidate key).1
  | clear => r.clear.1
  | _ => r

/-- What an access of a thread does to the build lock. -/
def lock {Thread : Type} (t : Thread) (holder : Option Thread) : Action → Option Thread
  | acquire => some t
  | release => none
  | _ => holder

end Action

/-- What building loaders can come to. -/
structure Builder where
  /-- Whether the build of a loader with a number, for an enumerator and a root, can come to an
  outcome. -/
  comesTo : Nat → Enumerator → String → Except Error Loader → Prop
  /-- A loader bears the number that it was built with. -/
  id_eq : ∀ {id : Nat} {enumerator : Enumerator} {root : String} {loader : Loader},
    comesTo id enumerator root (.ok loader) → loader.id = id

section Steps

variable {Thread : Type} (b : Builder)

/-- **The accesses of a call**, one after the other. The root of a request is brought into its
normal form for the key, and it is the root of the key that a kept loader is built for. -/
inductive Moves (r : Registry) (holder : Option Thread) : Stage → Action → Stage → Prop
  /-- A call begins. -/
  | start (call : Call) :
      Moves r holder .idle (.start call) (.busy call (call.entry r.caches))
  /-- A loader is kept. -/
  | found (enumerator : Enumerator) (root : String) (locked : Bool) (loader : Loader)
      (hkept : r.loaders[LoaderKey.of enumerator.contextId root]? = some loader) :
      Moves r holder (.busy (.get enumerator root) (.looking locked))
        (.look (.of enumerator.contextId root) (some loader))
        (.busy (.get enumerator root) (.hitting locked loader))
  /-- None is kept: the build lock is needed, or a loader. -/
  | absent (enumerator : Enumerator) (root : String) (locked : Bool)
      (hnone : r.loaders[LoaderKey.of enumerator.contextId root]? = none) :
      Moves r holder (.busy (.get enumerator root) (.looking locked))
        (.look (.of enumerator.contextId root) none)
        (.busy (.get enumerator root) (if locked then .missing else .waiting))
  /-- The loader that was found is counted. -/
  | countHit (enumerator : Enumerator) (root : String) (locked : Bool) (loader : Loader) :
      Moves r holder (.busy (.get enumerator root) (.hitting locked loader)) .countHit
        (.busy (.get enumerator root) (.leave locked (.ok loader)))
  /-- The build lock is free. -/
  | acquire (enumerator : Enumerator) (root : String) (hfree : holder = none) :
      Moves r holder (.busy (.get enumerator root) .waiting) .acquire
        (.busy (.get enumerator root) (.looking true))
  /-- That none was found is counted. -/
  | countMiss (enumerator : Enumerator) (root : String) :
      Moves r holder (.busy (.get enumerator root) .missing) .countMiss
        (.busy (.get enumerator root) (.numbering true))
  /-- The next number is taken. -/
  | number (call : Call) (locked : Bool) :
      Moves r holder (.busy call (.numbering locked)) (.number r.nextId)
        (.busy call (.building locked r.nextId))
  /-- The loader is built, or cannot be. -/
  | build (call : Call) (enumerator : Enumerator) (root : String) (locked : Bool) (id : Nat)
      (outcome : Except Error Loader) (hasked : call.asked? = some (enumerator, root))
      (hbuild : b.comesTo id enumerator (if locked then normalizeRoot root else root) outcome) :
      Moves r holder (.busy call (.building locked id)) (.build id outcome)
        (.busy call (.built locked outcome))
  /-- The loader is kept. -/
  | keep (enumerator : Enumerator) (root : String) (loader : Loader) :
      Moves r holder (.busy (.get enumerator root) (.keeping loader))
        (.keep (.of enumerator.contextId root) loader)
        (.busy (.get enumerator root) (.releasing (.ok loader)))
  /-- The build lock is given back. -/
  | release (call : Call) (outcome : Except Error Loader) :
      Moves r holder (.busy call (.releasing outcome)) .release
        (.busy call (.answering (.loader outcome)))
  /-- The loader of a key is removed. -/
  | invalidate (key : LoaderKey) :
      Moves r holder (.busy (.invalidate key) .removing) (.remove key (r.invalidate key).2.2)
        (.busy (.invalidate key) (.answering (.removed (r.invalidate key).2.2)))
  /-- All loaders are removed. -/
  | clear :
      Moves r holder (.busy .clear .removing) .clear (.busy .clear (.answering .cleared))
  /-- The call returns. -/
  | answer (call : Call) (answer : Answer) :
      Moves r holder (.busy call (.answering answer)) (.answer call answer) .idle

/-! ## Threads together -/

/-- A registry and the threads that call it. -/
structure System (Thread : Type) where
  /-- The registry. -/
  registry : Registry
  /-- The thread that holds the build lock, if any does. -/
  holder : Option Thread
  /-- What each thread is doing. -/
  stage : Thread → Stage

/-- A registry that no thread is calling. -/
def System.quiet (Thread : Type) (r : Registry) : System Thread :=
  ⟨r, none, fun _ => .idle⟩

/-- An access and the thread that makes it. -/
structure Event (Thread : Type) where
  /-- The thread. -/
  thread : Thread
  /-- The access. -/
  action : Action

variable [DecidableEq Thread]

/-- The system after an access of a thread, which goes on to a stage. -/
def System.after (s : System Thread) (event : Event Thread) (next : Stage) : System Thread where
  registry := event.action.apply s.registry
  holder := event.action.lock event.thread s.holder
  stage := fun u => if u = event.thread then next else s.stage u

/-- One thread makes its next access. -/
inductive Step (s : System Thread) : Event Thread → System Thread → Prop
  /-- The access comes next for the thread. -/
  | intro (event : Event Thread) (next : Stage)
      (hmoves : Moves b s.registry s.holder (s.stage event.thread) event.action next) :
      Step s event (s.after event next)

/-- **What threads can do together**, in the order in which it happens. -/
inductive Run (start : System Thread) : List (Event Thread) → System Thread → Prop
  /-- Nothing. -/
  | nil : Run start [] start
  /-- One more access. -/
  | snoc {events : List (Event Thread)} {s s' : System Thread} {event : Event Thread}
      (hrun : Run start events s) (hstep : Step b s event s') : Run start (events ++ [event]) s'

end Steps

end Wiring.Registry
