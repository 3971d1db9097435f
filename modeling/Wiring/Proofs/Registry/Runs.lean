import Mathlib.Data.List.Induction
import Wiring.Proofs.Loader
import Wiring.Registry

/-!
# Registries · Requests and runs

A registry is used by one request after another: a loader is asked for, a new one is built, a kept
one is forgotten, or all are. Each request comes with the enumerator and the files as they are when
it is made, so that anything may change between two of them. `Effect` lists all that a request can
do to a registry that keeps loaders, and says what is answered; `effect_after` says that it is
complete. What a whole run leads to is proved from it in the modules that build on this one.
-/

namespace Wiring

/-! ## Requests -/

/-- A request, with the enumerator and the files at the time it is made. -/
inductive Request
  /-- Asks for the loader of a root. -/
  | get (enumerator : Enumerator) (tree : FileTree) (root : String)
  /-- Asks for a new loader. -/
  | new (enumerator : Enumerator) (tree : FileTree) (root : String)
  /-- Has the loader of a key forgotten. -/
  | invalidate (key : LoaderKey)
  /-- Has all loaders forgotten. -/
  | clear

namespace Request

/-- Whether a loader is asked for that may be a kept one. -/
def isGet : Request → Bool
  | get _ _ _ => true
  | _ => false

/-- Whether a new loader is asked for. -/
def isNew : Request → Bool
  | new _ _ _ => true
  | _ => false

/-- Whether the loader of a key is forgotten. -/
def Forgets (key : LoaderKey) : Request → Prop
  | invalidate forgotten => forgotten = key
  | clear => True
  | _ => False

end Request

namespace Registry

/-- The registry after a request. -/
def after (r : Registry) : Request → Registry
  | .get enumerator tree root => (r.get enumerator tree root).1
  | .new enumerator tree root => (r.new enumerator tree root).1
  | .invalidate key => (r.invalidate key).1
  | .clear => r.clear.1

/-- What is answered to a request for a loader. -/
def reply? (r : Registry) : Request → Option (Except Error Loader)
  | .get enumerator tree root => some (r.get enumerator tree root).2.outcome
  | .new enumerator tree root => some (r.new enumerator tree root).2.outcome
  | _ => none

/-- The registry after some requests, one after the other. -/
def run (r : Registry) (requests : List Request) : Registry :=
  requests.foldl after r

/-- Without a request nothing changes. -/
@[simp] theorem run_nil (r : Registry) : r.run [] = r := rfl

/-- The first request is made first. -/
@[simp] theorem run_cons (r : Registry) (request : Request) (requests : List Request) :
    r.run (request :: requests) = (r.after request).run requests := rfl

/-- Requests that are made in two parts are made one part after the other. -/
theorem run_append (r : Registry) (first second : List Request) :
    r.run (first ++ second) = (r.run first).run second :=
  List.foldl_append

/-- The last request is made last. -/
theorem run_append_singleton (r : Registry) (requests : List Request) (request : Request) :
    r.run (requests ++ [request]) = (r.run requests).after request := by
  rw [run_append, run_cons, run_nil]

/-- **What holds at first and is kept by each request** holds after every run. -/
theorem run_induction {r : Registry} {motive : Registry → List Request → Prop}
    (hfirst : motive r [])
    (hafter : ∀ requests request, motive (r.run requests) requests →
      motive ((r.run requests).after request) (requests ++ [request]))
    (requests : List Request) : motive (r.run requests) requests := by
  induction requests using List.reverseRecOn with
  | nil => exact hfirst
  | append_singleton requests request ih =>
    rw [run_append_singleton]
    exact hafter requests request ih

/-! ## Tables of loaders -/

variable {r : Registry}

/-- The loader that is inserted stands under its key, and nothing else changes. -/
theorem getElem?_insert_loader (loaders : Std.ExtTreeMap LoaderKey Loader) (key query : LoaderKey)
    (loader : Loader) :
    (loaders.insert key loader)[query]? = if query = key then some loader else loaders[query]? := by
  rw [Std.ExtTreeMap.getElem?_insert]
  simp only [Std.compare_eq_iff_eq, @eq_comm _ key query]

/-- Nothing stands under a key that is erased, and nothing else changes. -/
theorem getElem?_erase_loader (loaders : Std.ExtTreeMap LoaderKey Loader)
    (key query : LoaderKey) :
    (loaders.erase key)[query]? = if query = key then none else loaders[query]? := by
  rw [Std.ExtTreeMap.getElem?_erase]
  simp only [Std.compare_eq_iff_eq, @eq_comm _ key query]

/-! ## One request -/

section Kept

variable {enumerator : Enumerator} {tree : FileTree} {root : String} {loader : Loader}

/-- **A kept loader** is handed out as it is, whatever the view and the files are by now. -/
theorem get_of_kept (hcaches : r.caches = true)
    (hkept : r.loaders[LoaderKey.of enumerator.contextId root]? = some loader) :
    r.get enumerator tree root = ({ r with hits := r.hits + 1 }, ⟨[], .ok loader⟩) := by
  unfold get find
  rw [if_pos hcaches]
  dsimp only
  rw [hkept]

/-- What is built for a root that no loader is kept for. -/
def buildFor (r : Registry) (enumerator : Enumerator) (tree : FileTree) (root : String) :
    Except Error Loader :=
  (Loader.build r.nextId enumerator tree (normalizeRoot root) r.options).outcome

/-- Where no loader is kept for the key, one is built to be kept. -/
theorem get_of_not_kept (hcaches : r.caches = true)
    (hnone : r.loaders[LoaderKey.of enumerator.contextId root]? = none) :
    r.get enumerator tree root =
      r.buildKept enumerator tree (.of enumerator.contextId root) := by
  unfold get find
  rw [if_pos hcaches]
  dsimp only
  rw [hnone]

/-- Where no loader is kept, the answer is that of the build. -/
theorem outcome_get_of_not_kept (hcaches : r.caches = true)
    (hnone : r.loaders[LoaderKey.of enumerator.contextId root]? = none) :
    (r.get enumerator tree root).2.outcome = r.buildFor enumerator tree root := by
  rw [get_of_not_kept hcaches hnone]
  unfold buildKept new countMiss buildFor
  dsimp only [LoaderKey.of]
  cases (Loader.build r.nextId enumerator tree (normalizeRoot root) r.options).outcome <;> simp

/-- After a build that fails the counts have moved, and the loaders are the same. -/
theorem buildKept_of_error {e : Error} (h : r.buildFor enumerator tree root = .error e) :
    (r.buildKept enumerator tree (.of enumerator.contextId root)).1 =
      { r with nextId := r.nextId + 1, misses := r.misses + 1 } := by
  unfold buildFor at h
  unfold buildKept new countMiss
  dsimp only [LoaderKey.of]
  rw [h]

/-- After a build that succeeds the loader is kept under the key. -/
theorem buildKept_of_ok (h : r.buildFor enumerator tree root = .ok loader) :
    (r.buildKept enumerator tree (.of enumerator.contextId root)).1 =
      { r with
        nextId := r.nextId + 1
        misses := r.misses + 1
        loaders := r.loaders.insert (.of enumerator.contextId root) loader } := by
  unfold buildFor at h
  unfold buildKept new countMiss keep
  dsimp only [LoaderKey.of]
  rw [h]

end Kept

/-- A key that is forgotten is erased, and nothing else changes. -/
theorem invalidate_fst (r : Registry) (key : LoaderKey) :
    (r.invalidate key).1 = { r with loaders := r.loaders.erase key } := by
  unfold invalidate
  cases hkept : r.loaders[key]? with
  | some loader => rfl
  | none =>
    have hsame : r.loaders.erase key = r.loaders := by
      refine Std.ExtTreeMap.ext_getElem? fun query => ?_
      rw [getElem?_erase_loader]
      split
      · next h => rw [h, hkept]
      · rfl
    rw [hsame]

/-- All that a request can do to a registry that keeps loaders. -/
inductive Effect (r : Registry) : Request → Registry → Prop
  /-- A loader is asked for and one is kept. -/
  | hit (enumerator : Enumerator) (tree : FileTree) (root : String) (loader : Loader)
      (hkept : r.loaders[LoaderKey.of enumerator.contextId root]? = some loader)
      (hreply : (r.get enumerator tree root).2.outcome = .ok loader) :
      Effect r (.get enumerator tree root) { r with hits := r.hits + 1 }
  /-- A loader is asked for, none is kept, and none can be built. -/
  | failed (enumerator : Enumerator) (tree : FileTree) (root : String) (e : Error)
      (hnone : r.loaders[LoaderKey.of enumerator.contextId root]? = none)
      (hreply : (r.get enumerator tree root).2.outcome = .error e) :
      Effect r (.get enumerator tree root)
        { r with nextId := r.nextId + 1, misses := r.misses + 1 }
  /-- A loader is asked for, none is kept, and one is built and kept. -/
  | built (enumerator : Enumerator) (tree : FileTree) (root : String) (loader : Loader)
      (hnone : r.loaders[LoaderKey.of enumerator.contextId root]? = none)
      (hreply : (r.get enumerator tree root).2.outcome = .ok loader)
      (hbuild : r.buildFor enumerator tree root = .ok loader) :
      Effect r (.get enumerator tree root)
        { r with
          nextId := r.nextId + 1
          misses := r.misses + 1
          loaders := r.loaders.insert (.of enumerator.contextId root) loader }
  /-- A new loader is asked for. -/
  | new (enumerator : Enumerator) (tree : FileTree) (root : String) :
      Effect r (.new enumerator tree root) { r with nextId := r.nextId + 1 }
  /-- The loader of a key is forgotten. -/
  | invalidate (key : LoaderKey) :
      Effect r (.invalidate key) { r with loaders := r.loaders.erase key }
  /-- All loaders are forgotten. -/
  | clear : Effect r .clear { r with loaders := ∅ }

/-- **The effect of a request** on a registry that keeps loaders is one of these. -/
theorem effect_after (hcaches : r.caches = true) (request : Request) :
    r.Effect request (r.after request) := by
  cases request with
  | new enumerator tree root => exact .new enumerator tree root
  | clear => exact .clear
  | invalidate key =>
    show r.Effect _ (r.invalidate key).1
    rw [invalidate_fst]
    exact .invalidate key
  | get enumerator tree root =>
    show r.Effect _ (r.get enumerator tree root).1
    cases hkept : r.loaders[LoaderKey.of enumerator.contextId root]? with
    | some loader =>
      have hreply : (r.get enumerator tree root).2.outcome = .ok loader := by
        rw [get_of_kept hcaches hkept]
      rw [get_of_kept hcaches hkept]
      exact .hit enumerator tree root loader hkept hreply
    | none =>
      have hreply : (r.get enumerator tree root).2.outcome = r.buildFor enumerator tree root :=
        outcome_get_of_not_kept hcaches hkept
      rw [get_of_not_kept hcaches hkept]
      cases hbuild : r.buildFor enumerator tree root with
      | error e =>
        rw [buildKept_of_error hbuild]
        exact .failed enumerator tree root e hkept (hreply.trans hbuild)
      | ok loader =>
        rw [buildKept_of_ok hbuild]
        exact .built enumerator tree root loader hkept (hreply.trans hbuild) hbuild

end Registry

end Wiring
