import Wiring.Proofs.Registry.History

/-!
# Registries · Keys and loaders

A loader bears a key, and is kept under one. The key it is kept under holds the root of the request
in normal form; the loader is built from that, so its own key holds the normal form of the normal
form, and its decisions are made for that of this one. All three are one root except where the
first begins with a blank (`normalizeRoot_normalizeRoot_iff`). Main statement: after any run, the
two keys are the same, a loader can be forgotten by its key, and a kept and a new loader are the
same, exactly where the root in normal form begins with no blank (`run_keyed`). One request is
enough to come to a loader that its own key does not find (`run_slashBlank`).
-/

namespace Wiring

namespace LoaderKey

/-- The root of a key is the normal form of the one that was asked for. -/
@[simp] theorem root_of (contextId root : String) : (of contextId root).root = normalizeRoot root :=
  rfl

/-- A root and its normal form have one key exactly where the normal form begins with no blank. -/
theorem of_normalizeRoot_eq_iff {contextId root : String} :
    of contextId (normalizeRoot root) = of contextId root ↔
      ¬BeginsWithBlank (normalizeRoot root) := by
  rw [← normalizeRoot_normalizeRoot_iff]
  constructor
  · intro h
    have hroot := congrArg LoaderKey.root h
    rwa [root_of, root_of] at hroot
  · intro h
    unfold of
    rw [h]

end LoaderKey

namespace Registry

variable {r : Registry} {requests : List Request} {enumerator : Enumerator} {tree : FileTree}
  {root : String} {key : LoaderKey} {loader : Loader}

/-! ## How a kept loader came about -/

/-- A request leaves the options as they are. -/
theorem options_after (hcaches : r.caches = true) (request : Request) :
    (r.after request).options = r.options := by
  have heffect := effect_after hcaches request
  generalize r.after request = r' at heffect
  cases heffect <;> rfl

/-- Requests leave the options as they are. -/
theorem options_run (hcaches : r.caches = true) (requests : List Request) :
    (r.run requests).options = r.options := by
  refine run_induction (motive := fun r' _ => r'.options = r.options) rfl ?_ requests
  intro requests request ih
  rw [options_after (caches_run hcaches requests), ih]

/-- Whether one of the requests is for a key, and its build comes to a loader. -/
def BuiltFor (options : LoaderOptions) (requests : List Request) (key : LoaderKey)
    (loader : Loader) : Prop :=
  ∃ enumerator tree root, .get enumerator tree root ∈ requests ∧
    LoaderKey.of enumerator.contextId root = key ∧
    (Loader.build loader.id enumerator tree (normalizeRoot root) options).outcome = .ok loader

/-- What a loader was built for stays so, whatever is requested later. -/
theorem BuiltFor.append {options : LoaderOptions} (h : BuiltFor options requests key loader)
    (later : List Request) : BuiltFor options (requests ++ later) key loader := by
  obtain ⟨enumerator, tree, root, hmem, hkey, hbuild⟩ := h
  exact ⟨enumerator, tree, root, List.mem_append_left later hmem, hkey, hbuild⟩

/-- A loader that is built for a request is numbered by the registry. -/
theorem builtFor_of_buildFor (h : r.buildFor enumerator tree root = .ok loader) :
    (Loader.build loader.id enumerator tree (normalizeRoot root) r.options).outcome =
      .ok loader := by
  have hid : loader.id = r.nextId := Loader.id_of_build h
  rw [hid]
  exact h

/-- One more request keeps it so that each kept loader was built for a request. -/
theorem builtFor_after {r' : Registry} (hcaches : r'.caches = true) {request : Request}
    (hbefore : r'.loaders[key]? = some loader → BuiltFor r'.options requests key loader)
    (h : (r'.after request).loaders[key]? = some loader) :
    BuiltFor r'.options (requests ++ [request]) key loader := by
  have heffect := effect_after hcaches request
  generalize r'.after request = r'' at heffect h
  cases heffect with
  | hit => exact (hbefore h).append _
  | failed => exact (hbefore h).append _
  | new => exact (hbefore h).append _
  | clear => simp at h
  | invalidate forgotten =>
    rw [getElem?_erase_loader] at h
    split at h
    · cases h
    · exact (hbefore h).append _
  | built enumerator tree root built _ _ hbuild =>
    rw [getElem?_insert_loader] at h
    split at h
    · next hkey =>
      obtain rfl := Option.some.inj h
      exact ⟨enumerator, tree, root, by simp, hkey.symm, builtFor_of_buildFor hbuild⟩
    · exact (hbefore h).append _

/-- **Each kept loader was built** for a request of the run, from the root of its key. -/
theorem builtFor_of_kept (hcaches : r.caches = true) (hempty : r.loaders = ∅) :
    (r.run requests).loaders[key]? = some loader → BuiltFor r.options requests key loader := by
  refine run_induction (motive := fun r' requests =>
    r'.loaders[key]? = some loader → BuiltFor r.options requests key loader) ?_ ?_ requests
  · intro h
    rw [hempty] at h
    simp at h
  · intro requests request ih h
    have hoptions := options_run hcaches requests
    rw [← hoptions] at ih ⊢
    exact builtFor_after (caches_run hcaches requests) ih h

/-- **The key of a kept loader** is the key of the root that it is kept under, which is brought into
its normal form once more. -/
theorem BuiltFor.key_eq {options : LoaderOptions} (h : BuiltFor options requests key loader) :
    loader.key = .of key.contextId key.root := by
  obtain ⟨enumerator, tree, root, -, rfl, hbuild⟩ := h
  exact Loader.key_of_build hbuild

/-- The key of a kept loader is the one it is kept under exactly where its root begins with no
blank. -/
theorem BuiltFor.key_eq_iff {options : LoaderOptions} (h : BuiltFor options requests key loader) :
    loader.key = key ↔ ¬BeginsWithBlank key.root := by
  rw [h.key_eq]
  obtain ⟨enumerator, tree, root, -, rfl, -⟩ := h
  exact LoaderKey.of_normalizeRoot_eq_iff

/-- The decisions of a kept loader are for the root of the key that it bears, in normal form. -/
theorem BuiltFor.root_eq {options : LoaderOptions} (h : BuiltFor options requests key loader) :
    loader.resolved.root = normalizeRoot loader.key.root := by
  obtain ⟨enumerator, tree, root, -, rfl, hbuild⟩ := h
  rw [Loader.root_of_build hbuild, Loader.key_of_build hbuild, LoaderKey.root_of]

/-- Both agree with the key that a loader is kept under exactly where its root begins with no
blank. -/
theorem BuiltFor.key_eq_and_root_eq_iff {options : LoaderOptions}
    (h : BuiltFor options requests key loader) :
    loader.key = key ∧ loader.resolved.root = key.root ↔ ¬BeginsWithBlank key.root := by
  rw [← h.key_eq_iff, and_iff_left_iff_imp]
  intro hkey
  have hnormal := congrArg LoaderKey.root (h.key_eq.symm.trans hkey)
  rw [LoaderKey.root_of] at hnormal
  rw [h.root_eq, hkey, hnormal]

/-! ## Numbers of kept loaders -/

/-- Whether the numbers of the kept loaders are taken, each by one of them alone. -/
structure Numbered (r : Registry) : Prop where
  /-- The numbers are below the next one. -/
  id_lt : ∀ (key : LoaderKey) (loader : Loader), r.loaders[key]? = some loader →
    loader.id < r.nextId
  /-- Loaders with one number are kept under one key. -/
  key_eq : ∀ (key key' : LoaderKey) (loader loader' : Loader), r.loaders[key]? = some loader →
    r.loaders[key']? = some loader' → loader.id = loader'.id → key = key'

/-- To forget loaders, or to take more numbers, keeps them numbered. -/
theorem Numbered.mono {r r' : Registry} (h : r.Numbered) (hnext : r.nextId ≤ r'.nextId)
    (hkept : ∀ (key : LoaderKey) (loader : Loader), r'.loaders[key]? = some loader →
      r.loaders[key]? = some loader) :
    r'.Numbered := by
  refine ⟨?_, ?_⟩
  · intro key loader hloader
    have hlt := h.id_lt key loader (hkept key loader hloader)
    omega
  · intro key key' loader loader' hloader hloader'
    exact h.key_eq key key' loader loader' (hkept _ _ hloader) (hkept _ _ hloader')

/-- A request leaves every kept loader with a number of its own. -/
theorem Numbered.after (hcaches : r.caches = true) (h : r.Numbered) (request : Request) :
    (r.after request).Numbered := by
  have heffect := effect_after hcaches request
  generalize r.after request = r' at heffect
  cases heffect with
  | hit => exact h.mono (Nat.le_refl _) fun _ _ hkept => hkept
  | failed => exact h.mono (Nat.le_succ _) fun _ _ hkept => hkept
  | new => exact h.mono (Nat.le_succ _) fun _ _ hkept => hkept
  | clear => exact h.mono (Nat.le_refl _) fun _ _ hkept => by simp at hkept
  | invalidate forgotten =>
    refine h.mono (Nat.le_refl _) fun key loader hkept => ?_
    rw [getElem?_erase_loader] at hkept
    split at hkept
    · cases hkept
    · exact hkept
  | built enumerator tree root built _ _ hbuild =>
    have hid : built.id = r.nextId := Loader.id_of_build hbuild
    refine ⟨?_, ?_⟩
    · intro key loader hkept
      rw [getElem?_insert_loader] at hkept
      show loader.id < r.nextId + 1
      split at hkept
      · obtain rfl := Option.some.inj hkept
        omega
      · have hlt := h.id_lt key loader hkept
        omega
    · intro key key' loader loader' hkept hkept' hids
      rw [getElem?_insert_loader] at hkept hkept'
      split at hkept <;> split at hkept'
      · next hkey hkey' => rw [hkey, hkey']
      · -- the new loader bears the number that was next, the other one a lower one
        obtain rfl := Option.some.inj hkept
        have hlt := h.id_lt key' loader' hkept'
        omega
      · obtain rfl := Option.some.inj hkept'
        have hlt := h.id_lt key loader hkept
        omega
      · exact h.key_eq key key' loader loader' hkept hkept' hids

/-- After any requests every kept loader has a number of its own. -/
theorem numbered_run (hcaches : r.caches = true) (hempty : r.loaders = ∅)
    (requests : List Request) : (r.run requests).Numbered := by
  refine run_induction (motive := fun r' _ => r'.Numbered) ⟨?_, ?_⟩ ?_ requests
  · intro key loader hkept
    simp [hempty] at hkept
  · intro key key' loader loader' hkept
    simp [hempty] at hkept
  · intro requests request ih
    exact ih.after (caches_run hcaches requests) request

/-! ## Forgetting a loader -/

/-- What is forgotten is what was kept. -/
theorem invalidate_snd (r : Registry) (key : LoaderKey) :
    (r.invalidate key).2.2 = r.loaders[key]? := by
  unfold invalidate
  cases r.loaders[key]? <;> rfl

/-- The loader that a request is answered with is kept under the key of the request. -/
theorem kept_of_get (hcaches : r.caches = true) (hempty : r.loaders = ∅)
    (h : ((r.run requests).get enumerator tree root).2.outcome = .ok loader) :
    (r.run (requests ++ [.get enumerator tree root])).loaders[LoaderKey.of enumerator.contextId
      root]? = some loader := by
  rw [getElem?_run_iff hcaches hempty, gotBefore_append_singleton, yields_get_iff]
  exact .inr ⟨rfl, h⟩

/-- **A kept loader is found by its key** exactly where that is the one it is kept under: no other
loader bears its number. -/
theorem getElem?_key_iff (hcaches : r.caches = true) (hempty : r.loaders = ∅)
    (h : (r.run requests).loaders[key]? = some loader) :
    (r.run requests).loaders[loader.key]? = some loader ↔ ¬BeginsWithBlank key.root := by
  rw [← (builtFor_of_kept hcaches hempty h).key_eq_iff]
  constructor
  · intro hfound
    exact (numbered_run hcaches hempty requests).key_eq _ _ _ _ hfound h rfl
  · intro hkey
    rwa [hkey]

/-- A loader is gone after its key was forgotten exactly where that is the one it is kept under. -/
theorem getElem?_invalidate_key_iff (hcaches : r.caches = true) (hempty : r.loaders = ∅)
    (h : (r.run requests).loaders[key]? = some loader) :
    ((r.run requests).invalidate loader.key).1.loaders[key]? = none ↔
      ¬BeginsWithBlank key.root := by
  rw [← (builtFor_of_kept hcaches hempty h).key_eq_iff, invalidate_fst, getElem?_erase_loader, h]
  simp [eq_comm]

/-! ## Kept and new loaders -/

/-- Whether all requests for the key of a root so far saw what is seen now. -/
def Unchanged (requests : List Request) (enumerator : Enumerator) (tree : FileTree)
    (root : String) : Prop :=
  ∀ earlier files name, .get earlier files name ∈ requests →
    LoaderKey.of earlier.contextId name = .of enumerator.contextId root →
    earlier.view files = enumerator.view tree

/-- A new loader is what its build comes to. -/
theorem outcome_new (hcaches : r.caches = true) (others : List Request) :
    ((r.run others).new enumerator tree root).2.outcome =
      (Loader.build (r.run others).nextId enumerator tree root r.options).outcome := by
  rw [← options_run hcaches others]
  rfl

/-- **While nothing changes** a new loader can be built where a request is answered with one, and
the two are the same. -/
theorem exists_new_same (hcaches : r.caches = true) (hempty : r.loaders = ∅)
    (hunchanged : Unchanged requests enumerator tree root)
    (hroot : ¬BeginsWithBlank (normalizeRoot root)) (others : List Request)
    (h : ((r.run requests).get enumerator tree root).2.outcome = .ok loader) :
    ∃ loader', ((r.run others).new enumerator tree root).2.outcome = .ok loader' ∧
      loader.same loader' = true := by
  have hkept := kept_of_get hcaches hempty h
  obtain ⟨earlier, files, name, hmem, hkey, hbuild⟩ := builtFor_of_kept hcaches hempty hkept
  have hview : earlier.view files = enumerator.view tree := by
    rcases List.mem_append.1 hmem with hmem | hlast
    · exact hunchanged earlier files name hmem hkey
    · obtain ⟨rfl, rfl, rfl⟩ := Request.get.inj (List.mem_singleton.1 hlast)
      rfl
  have hname : LoaderKey.of earlier.contextId (normalizeRoot name) =
      .of enumerator.contextId root := by
    rw [← hkey]
    have hnormal : normalizeRoot name = normalizeRoot root := congrArg LoaderKey.root hkey
    rw [LoaderKey.of_normalizeRoot_eq_iff, hnormal]
    exact hroot
  rw [outcome_new hcaches]
  exact Loader.exists_build_same hname hview hbuild

/-- While a new loader can be built, a request is answered with a loader. -/
theorem exists_get_of_new (hcaches : r.caches = true)
    (hroot : ¬BeginsWithBlank (normalizeRoot root)) {others : List Request}
    (h : ((r.run others).new enumerator tree root).2.outcome = .ok loader) :
    ∃ loader', ((r.run requests).get enumerator tree root).2.outcome = .ok loader' := by
  have hrun := caches_run hcaches requests
  cases hkept : (r.run requests).loaders[LoaderKey.of enumerator.contextId root]? with
  | some kept => exact ⟨kept, by rw [get_of_kept hrun hkept]⟩
  | none =>
    rw [outcome_new hcaches] at h
    rw [outcome_get_of_not_kept hrun hkept]
    unfold buildFor
    rw [options_run hcaches]
    have hkey : LoaderKey.of enumerator.contextId root =
        .of enumerator.contextId (normalizeRoot root) :=
      (LoaderKey.of_normalizeRoot_eq_iff.2 hroot).symm
    obtain ⟨built, hbuild, -⟩ := Loader.exists_build_same hkey rfl h
    exact ⟨built, hbuild⟩

/-- **A kept and a new loader are the same**, while nothing changes, exactly where the root begins
with no blank: elsewhere they bear different keys. -/
theorem same_iff (hcaches : r.caches = true) (hempty : r.loaders = ∅)
    (hunchanged : Unchanged requests enumerator tree root) {others : List Request}
    {loader' : Loader} (h : ((r.run requests).get enumerator tree root).2.outcome = .ok loader)
    (hnew : ((r.run others).new enumerator tree root).2.outcome = .ok loader') :
    loader.same loader' = true ↔ ¬BeginsWithBlank (normalizeRoot root) := by
  constructor
  · intro hsame
    have hboth : loader.key = loader'.key ∧ loader.resolved = loader'.resolved := by
      simpa [Loader.same] using hsame
    have hkey : loader'.key = .of enumerator.contextId root := Loader.key_of_build hnew
    exact (builtFor_of_kept hcaches hempty (kept_of_get hcaches hempty h)).key_eq_iff.1
      (hboth.1.trans hkey)
  · intro hroot
    obtain ⟨other, hother, hsame⟩ := exists_new_same hcaches hempty hunchanged hroot others h
    obtain rfl := Except.ok.inj (hother.symm.trans hnew)
    exact hsame

/-! ## Main statement -/

/-- What the keys of the loaders are worth after some requests. -/
structure KeyedRun (r : Registry) (requests : List Request) : Prop where
  /-- A kept loader bears the key that it is kept under, and has its decisions made for the root of
  this, exactly where the root begins with no blank. -/
  key_iff : ∀ (key : LoaderKey) (loader : Loader), (r.run requests).loaders[key]? = some loader →
    (loader.key = key ∧ loader.resolved.root = key.root ↔ ¬BeginsWithBlank key.root)
  /-- Exactly there the loader that a request is answered with is what is yielded when its key is
  forgotten, -/
  yielded_iff : ∀ enumerator tree root loader,
    ((r.run requests).get enumerator tree root).2.outcome = .ok loader →
      (((r.run (requests ++ [.get enumerator tree root])).invalidate loader.key).2.2 =
        some loader ↔ ¬BeginsWithBlank (normalizeRoot root))
  /-- and is not kept any more. -/
  gone_iff : ∀ enumerator tree root loader,
    ((r.run requests).get enumerator tree root).2.outcome = .ok loader →
      (((r.run (requests ++ [.get enumerator tree root])).invalidate loader.key).1.loaders[
        LoaderKey.of enumerator.contextId root]? = none ↔ ¬BeginsWithBlank (normalizeRoot root))
  /-- Exactly there, while nothing changes, it is the same as a new loader, whenever that is asked
  for; -/
  same_iff : ∀ enumerator tree root others loader loader',
    Unchanged requests enumerator tree root →
    ((r.run requests).get enumerator tree root).2.outcome = .ok loader →
    ((r.run others).new enumerator tree root).2.outcome = .ok loader' →
      (loader.same loader' = true ↔ ¬BeginsWithBlank (normalizeRoot root))
  /-- and there is the one if there is the other. -/
  ok_iff : ∀ enumerator tree root others,
    Unchanged requests enumerator tree root → ¬BeginsWithBlank (normalizeRoot root) →
      ((∃ loader, ((r.run requests).get enumerator tree root).2.outcome = .ok loader) ↔
        ∃ loader', ((r.run others).new enumerator tree root).2.outcome = .ok loader')

/-- **Keys and loaders.** A new registry that keeps loaders is used by any requests. A loader bears
the key it is kept under, can be forgotten by it, and is the same as a new loader, exactly where the
root in normal form begins with no blank. -/
theorem run_keyed {settings : Settings} (hcache : settings.cache = true) (enumerator : Enumerator)
    (factories : FactoryTable) (requests : List Request) :
    (create settings enumerator factories).KeyedRun requests := by
  generalize hr : create settings enumerator factories = r
  have hcaches : r.caches = true := by rw [← hr]; exact hcache
  have hempty : r.loaders = ∅ := by rw [← hr]; rfl
  refine ⟨?_, ?_, ?_, ?_, ?_⟩
  · intro key loader hkept
    exact (builtFor_of_kept hcaches hempty hkept).key_eq_and_root_eq_iff
  · intro enumerator tree root loader hget
    rw [invalidate_snd, ← LoaderKey.root_of enumerator.contextId]
    exact getElem?_key_iff hcaches hempty (kept_of_get hcaches hempty hget)
  · intro enumerator tree root loader hget
    rw [← LoaderKey.root_of enumerator.contextId]
    exact getElem?_invalidate_key_iff hcaches hempty (kept_of_get hcaches hempty hget)
  · intro enumerator tree root others loader loader' hunchanged hget hnew
    exact same_iff hcaches hempty hunchanged hget hnew
  · intro enumerator tree root others hunchanged hroot
    constructor
    · rintro ⟨loader, hget⟩
      obtain ⟨other, hother, -⟩ := exists_new_same hcaches hempty hunchanged hroot others hget
      exact ⟨other, hother⟩
    · rintro ⟨loader, hnew⟩
      exact exists_get_of_new hcaches hroot hnew

/-! ## One root in two spellings -/

/-- An enumerator that shows nothing. -/
def emptyEnumerator : Enumerator := .embedded "test" []

/-- A request for a root in which a blank follows the slash in front. -/
def slashBlank : Request := .get emptyEnumerator ⟨[], ∅, ∅⟩ "/ a"

/-- A request for the root without either. -/
def bare : Request := .get emptyEnumerator ⟨[], ∅, ∅⟩ "a"

/-- A new registry with the settings that hold where nothing is configured. -/
def plainRegistry : Registry := create .default emptyEnumerator ⟨[]⟩

/-- After both requests two loaders are kept, one with a blank in its key and one without. -/
theorem run_keyed_twoSpellings :
    Settings.default.cache = true ∧ plainRegistry.KeyedRun [slashBlank, bare] ∧
      (plainRegistry.run [slashBlank, bare]).keys = [⟨"test", " a/"⟩, ⟨"test", "a/"⟩] :=
  ⟨rfl, run_keyed rfl emptyEnumerator ⟨[]⟩ [slashBlank, bare], by decide +kernel⟩

/-- After the first alone its loader is kept under one key and bears the other, for which nothing is
kept. -/
theorem run_slashBlank :
    ∃ loader, (plainRegistry.run [slashBlank]).loaders[LoaderKey.mk "test" " a/"]? =
        some loader ∧
      loader.key = ⟨"test", "a/"⟩ ∧ loader.resolved.root = "a/" ∧
      ((plainRegistry.run [slashBlank]).invalidate loader.key).2.2 = none := by
  have hkept : ((plainRegistry.run [slashBlank]).loaders[LoaderKey.mk "test" " a/"]?).map
      (fun loader => (loader.key, loader.resolved.root)) = some (⟨"test", "a/"⟩, "a/") := by
    decide +kernel
  obtain ⟨loader, hloader, hpair⟩ := Option.map_eq_some_iff.1 hkept
  obtain ⟨hkey, hroot⟩ := Prod.mk.inj hpair
  refine ⟨loader, hloader, hkey, hroot, ?_⟩
  have hnone : ((plainRegistry.run [slashBlank]).invalidate ⟨"test", "a/"⟩).2.2.isNone =
      true := by decide +kernel
  rw [hkey]
  exact Option.isNone_iff_eq_none.1 hnone

end Registry

end Wiring
