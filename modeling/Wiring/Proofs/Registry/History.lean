import Wiring.Proofs.Registry.Runs

/-!
# Registries · What a run leads to

The state of a registry after any run of requests, told by the run alone. A loader is kept under a
key exactly when a request for the key was answered with it and nothing has had it forgotten since
(`GotBefore`, `getElem?_run_iff`); so what is answered does not depend on the files where a loader
was got before. Builds may fail at any point. Main statement: `run_create`, with the counts and the
numbers of the loaders for a registry that keeps loaders (`CachingRun`) and for one that does not
(`PassingRun`).
-/

namespace Wiring

namespace Registry

/-! ## Loaders that were got -/

/-- Whether a request for a key was answered with a loader, and the loader of the key was not
forgotten since. -/
def GotBefore (r : Registry) (requests : List Request) (key : LoaderKey) (loader : Loader) :
    Prop :=
  ∃ before enumerator tree root later, requests = before ++ .get enumerator tree root :: later ∧
    LoaderKey.of enumerator.contextId root = key ∧
    ((r.run before).get enumerator tree root).2.outcome = .ok loader ∧
    ∀ request ∈ later, ¬request.Forgets key

/-- Whether a request asks for a key and is answered with a loader. -/
def Yields (r : Registry) (request : Request) (key : LoaderKey) (loader : Loader) : Prop :=
  ∃ enumerator tree root, request = .get enumerator tree root ∧
    LoaderKey.of enumerator.contextId root = key ∧
    (r.get enumerator tree root).2.outcome = .ok loader

/-- After one more request a loader was got before if it was so and the request does not forget it,
or if the request yields it. -/
theorem gotBefore_append_singleton {r : Registry} {requests : List Request} {request : Request}
    {key : LoaderKey} {loader : Loader} :
    r.GotBefore (requests ++ [request]) key loader ↔
      r.GotBefore requests key loader ∧ ¬request.Forgets key ∨
        (r.run requests).Yields request key loader := by
  constructor
  · rintro ⟨before, enumerator, tree, root, later, hsplit, hkey, hreply, hlater⟩
    cases later using List.reverseRecOn with
    | nil =>
      obtain ⟨rfl, hrequest⟩ := List.append_inj' hsplit rfl
      exact .inr ⟨enumerator, tree, root, List.singleton_inj.1 hrequest, hkey, hreply⟩
    | append_singleton later last _ =>
      rw [← List.cons_append, ← List.append_assoc] at hsplit
      obtain ⟨rfl, hlast⟩ := List.append_inj' hsplit rfl
      obtain rfl := List.singleton_inj.1 hlast
      refine .inl ⟨⟨before, enumerator, tree, root, later, rfl, hkey, hreply, ?_⟩, ?_⟩
      · exact fun other hother => hlater other (List.mem_append_left _ hother)
      · exact hlater request (List.mem_append_right _ (List.mem_singleton_self request))
  · rintro (⟨⟨before, enumerator, tree, root, later, rfl, hkey, hreply, hlater⟩, hkeeps⟩ |
      ⟨enumerator, tree, root, rfl, hkey, hreply⟩)
    · refine ⟨before, enumerator, tree, root, later ++ [request], by simp, hkey, hreply, ?_⟩
      intro other hother
      rcases List.mem_append.1 hother with hother | hother
      · exact hlater other hother
      · rwa [List.mem_singleton.1 hother]
    · exact ⟨requests, enumerator, tree, root, [], rfl, hkey, hreply, by simp⟩

/-! ## Registries that keep loaders -/

section Caching

variable {r : Registry} {requests : List Request} {request : Request} {key : LoaderKey}
  {loader : Loader}

/-- A registry that keeps loaders still does so after a request. -/
theorem caches_after (hcaches : r.caches = true) (request : Request) :
    (r.after request).caches = true := by
  have heffect := effect_after hcaches request
  generalize r.after request = r' at heffect
  cases heffect <;> exact hcaches

/-- A request that may be answered with a kept loader yields the one it is answered with. -/
theorem yields_get_iff {enumerator : Enumerator} {tree : FileTree} {root : String} :
    r.Yields (.get enumerator tree root) key loader ↔
      LoaderKey.of enumerator.contextId root = key ∧
        (r.get enumerator tree root).2.outcome = .ok loader := by
  constructor
  · rintro ⟨_, _, _, hrequest, hkey, hreply⟩
    obtain ⟨rfl, rfl, rfl⟩ := Request.get.inj hrequest
    exact ⟨hkey, hreply⟩
  · rintro ⟨hkey, hreply⟩
    exact ⟨enumerator, tree, root, rfl, hkey, hreply⟩

/-- Only requests that may be answered with a kept loader yield one. -/
theorem Yields.isGet (h : r.Yields request key loader) : request.isGet = true := by
  obtain ⟨_, _, _, rfl, -, -⟩ := h
  rfl

/-- **One request** leaves a loader kept if it was kept and is not forgotten, or if the request
yields it. -/
theorem getElem?_after_iff (hcaches : r.caches = true) :
    (r.after request).loaders[key]? = some loader ↔
      r.loaders[key]? = some loader ∧ ¬request.Forgets key ∨ r.Yields request key loader := by
  have heffect := effect_after hcaches request
  generalize r.after request = r' at heffect
  cases heffect with
  | hit enumerator tree root kept hkept hreply =>
    rw [yields_get_iff, hreply, Except.ok.injEq]
    constructor
    · intro h
      exact .inl ⟨h, not_false⟩
    · rintro (⟨h, -⟩ | ⟨rfl, rfl⟩)
      · exact h
      · exact hkept
  | failed enumerator tree root e hnone hreply =>
    rw [yields_get_iff, hreply]
    simp [Request.Forgets]
  | built enumerator tree root built hnone hreply hbuild =>
    rw [getElem?_insert_loader, yields_get_iff, hreply, Except.ok.injEq]
    by_cases hkey : key = .of enumerator.contextId root
    · rw [if_pos hkey, hkey, hnone, Option.some.injEq]
      simp
    · rw [if_neg hkey]
      simp [Request.Forgets, Ne.symm hkey]
  | new enumerator tree root =>
    have hno : ¬r.Yields (.new enumerator tree root) key loader := fun h => nomatch h.isGet
    simp [Request.Forgets, hno]
  | invalidate forgotten =>
    have hno : ¬r.Yields (.invalidate forgotten) key loader := fun h => nomatch h.isGet
    rw [getElem?_erase_loader]
    by_cases hkey : key = forgotten
    · subst hkey
      simp [Request.Forgets, hno]
    · simp [Request.Forgets, hkey, Ne.symm hkey, hno]
  | clear =>
    have hno : ¬r.Yields .clear key loader := fun h => nomatch h.isGet
    simp [Request.Forgets, hno]

/-- A registry that keeps loaders still does so after all requests. -/
theorem caches_run (hcaches : r.caches = true) (requests : List Request) :
    (r.run requests).caches = true := by
  refine run_induction (motive := fun r' _ => r'.caches = true) hcaches ?_ requests
  intro requests request ih
  exact caches_after ih request

/-- **The loaders kept after a run** that began with none are those that were got before. -/
theorem getElem?_run_iff (hcaches : r.caches = true) (hempty : r.loaders = ∅) :
    (r.run requests).loaders[key]? = some loader ↔ r.GotBefore requests key loader := by
  refine run_induction (motive := fun r' requests =>
    r'.loaders[key]? = some loader ↔ r.GotBefore requests key loader) ?_ ?_ requests
  · rw [hempty]
    constructor
    · intro h
      simp at h
    · rintro ⟨before, _, _, _, later, hsplit, -⟩
      simp at hsplit
  · intro requests request ih
    rw [getElem?_after_iff (caches_run hcaches requests), ih, gotBefore_append_singleton]

/-- Where a loader was got before, it is handed out again, and only the hits are counted up. -/
theorem get_of_gotBefore (hcaches : r.caches = true) (hempty : r.loaders = ∅)
    {enumerator : Enumerator} {root : String}
    (h : r.GotBefore requests (.of enumerator.contextId root) loader) (tree : FileTree) :
    (r.run requests).get enumerator tree root =
      ({ r.run requests with hits := (r.run requests).hits + 1 }, ⟨[], .ok loader⟩) :=
  get_of_kept (caches_run hcaches requests) ((getElem?_run_iff hcaches hempty).2 h)

/-- Where none was got before, the hits stay. -/
theorem hits_get_of_not_kept (hcaches : r.caches = true) {enumerator : Enumerator}
    {tree : FileTree} {root : String}
    (hnone : r.loaders[LoaderKey.of enumerator.contextId root]? = none) :
    (r.get enumerator tree root).1.hits = r.hits := by
  have heffect : r.Effect _ (r.get enumerator tree root).1 := effect_after hcaches (.get _ _ _)
  generalize (r.get enumerator tree root).1 = r' at heffect
  cases heffect with
  | hit _ _ _ loader hkept _ => cases hnone.symm.trans hkept
  | failed => rfl
  | built => rfl

/-- A request for a loader is a hit exactly when one is kept. -/
theorem hits_get_eq_iff (hcaches : r.caches = true) {enumerator : Enumerator} {tree : FileTree}
    {root : String} :
    (r.get enumerator tree root).1.hits = r.hits + 1 ↔
      ∃ loader, r.loaders[LoaderKey.of enumerator.contextId root]? = some loader := by
  constructor
  · intro hhit
    rw [← Option.isSome_iff_exists, ← Option.ne_none_iff_isSome]
    intro hnone
    rw [hits_get_of_not_kept hcaches hnone] at hhit
    omega
  · rintro ⟨loader, hkept⟩
    rw [get_of_kept hcaches hkept]

/-- A request whose answer is an error leaves the loaders as they are. -/
theorem loaders_after_of_error (hcaches : r.caches = true) {e : Error}
    (h : r.reply? request = some (.error e)) : (r.after request).loaders = r.loaders := by
  have heffect := effect_after hcaches request
  generalize r.after request = r' at heffect
  cases heffect with
  | hit => rfl
  | failed => rfl
  | new => rfl
  | built enumerator tree root built hnone hreply hbuild =>
    cases hreply.symm.trans (Option.some.inj h)
  | invalidate => cases h
  | clear => cases h

/-! ## Counts -/

/-- What the counts of a registry amount to after so many requests of either kind. -/
structure Counted (r : Registry) (gets news : Nat) : Prop where
  /-- Each request for a loader was a hit or a miss. -/
  hits_add_misses : r.hits + r.misses = gets
  /-- Each miss and each request for a new loader took a number. -/
  nextId : r.nextId = r.misses + news
  /-- Each loader kept was missed once. -/
  size_le : r.loaders.size ≤ r.misses

/-- A request is counted by its kind. -/
theorem Counted.after {gets news : Nat} (hcaches : r.caches = true) (h : r.Counted gets news)
    (request : Request) :
    (r.after request).Counted (gets + if request.isGet then 1 else 0)
      (news + if request.isNew then 1 else 0) := by
  obtain ⟨hsum, hnext, hsize⟩ := h
  have heffect := effect_after hcaches request
  generalize r.after request = r' at heffect
  cases heffect with
  | hit =>
    refine ⟨?_, hnext, hsize⟩
    show r.hits + 1 + r.misses = gets + 1
    omega
  | failed =>
    refine ⟨?_, ?_, Nat.le_succ_of_le hsize⟩
    · show r.hits + (r.misses + 1) = gets + 1
      omega
    · show r.nextId + 1 = r.misses + 1 + news
      omega
  | built enumerator tree root loader =>
    refine ⟨?_, ?_, ?_⟩
    · show r.hits + (r.misses + 1) = gets + 1
      omega
    · show r.nextId + 1 = r.misses + 1 + news
      omega
    · have hinsert : (r.loaders.insert (.of enumerator.contextId root) loader).size ≤
          r.loaders.size + 1 := Std.ExtTreeMap.size_insert_le
      show (r.loaders.insert _ loader).size ≤ r.misses + 1
      omega
  | new =>
    refine ⟨hsum, ?_, hsize⟩
    show r.nextId + 1 = r.misses + (news + 1)
    omega
  | invalidate key =>
    have herase : (r.loaders.erase key).size ≤ r.loaders.size := Std.ExtTreeMap.size_erase_le
    exact ⟨hsum, hnext, herase.trans hsize⟩
  | clear =>
    refine ⟨hsum, hnext, ?_⟩
    show (∅ : Std.ExtTreeMap LoaderKey Loader).size ≤ r.misses
    simp

/-- The counts after some requests are the numbers of requests of either kind. -/
theorem Counted.run (hcaches : r.caches = true) (h : r.Counted 0 0) (requests : List Request) :
    (r.run requests).Counted (requests.countP Request.isGet) (requests.countP Request.isNew) := by
  refine run_induction (motive := fun r' requests =>
    r'.Counted (requests.countP Request.isGet) (requests.countP Request.isNew)) h ?_ requests
  intro requests request ih
  simp only [List.countP_append, List.countP_singleton]
  exact ih.after (caches_run hcaches requests) request

end Caching

/-! ## Registries that keep no loaders -/

/-- What a registry that keeps no loaders is like after so many requests for one. -/
structure Passing (r : Registry) (requests : Nat) : Prop where
  /-- It keeps none. -/
  caches : r.caches = false
  /-- None is there. -/
  loaders : r.loaders = ∅
  /-- No hit is counted. -/
  hits : r.hits = 0
  /-- No miss is counted. -/
  misses : r.misses = 0
  /-- Each request took a number. -/
  nextId : r.nextId = requests

/-- Without a cache a loader is built for every request. -/
theorem get_of_not_caches {r : Registry} (h : r.caches = false) (enumerator : Enumerator)
    (tree : FileTree) (root : String) :
    r.get enumerator tree root = r.new enumerator tree root := by
  unfold get
  rw [h]
  rfl

/-- Where no loaders are kept, a request for one is counted and nothing is kept of it. -/
theorem Passing.after {r : Registry} {n : Nat} (h : r.Passing n) (request : Request) :
    (r.after request).Passing (n + if request.isGet || request.isNew then 1 else 0) := by
  obtain ⟨hcaches, hempty, hhits, hmisses, hnext⟩ := h
  cases request with
  | get enumerator tree root =>
    show (r.get enumerator tree root).1.Passing (n + 1)
    rw [get_of_not_caches hcaches]
    exact ⟨hcaches, hempty, hhits, hmisses, congrArg (· + 1) hnext⟩
  | new enumerator tree root => exact ⟨hcaches, hempty, hhits, hmisses, congrArg (· + 1) hnext⟩
  | invalidate key =>
    show (r.invalidate key).1.Passing n
    rw [invalidate_fst, hempty, Std.ExtTreeMap.erase_empty]
    exact ⟨hcaches, rfl, hhits, hmisses, hnext⟩
  | clear => exact ⟨hcaches, rfl, hhits, hmisses, hnext⟩

/-- Where no loaders are kept, the counts after some requests are how many asked for one. -/
theorem Passing.run {r : Registry} (h : r.Passing 0) (requests : List Request) :
    (r.run requests).Passing (requests.countP fun request => request.isGet || request.isNew) := by
  refine run_induction (motive := fun r' requests =>
    r'.Passing (requests.countP fun request => request.isGet || request.isNew)) h ?_ requests
  intro requests request ih
  rw [List.countP_append, List.countP_singleton]
  exact ih.after request

/-! ## Numbers of loaders -/

/-- The loader that a request builds, if it builds one: a kept one is not built again. -/
def built? (r : Registry) : Request → Option Loader
  | .get enumerator tree root =>
    if r.caches && (r.loaders[LoaderKey.of enumerator.contextId root]?).isSome then none
    else (r.get enumerator tree root).2.outcome.toOption
  | .new enumerator tree root => (r.new enumerator tree root).2.outcome.toOption
  | _ => none

/-- The loaders that are built in a run, in order. -/
def builtIn (r : Registry) : List Request → List Loader
  | [] => []
  | request :: requests => (r.built? request).toList ++ (r.after request).builtIn requests

/-- A new loader bears the next number. -/
theorem id_of_new {r : Registry} {enumerator : Enumerator} {tree : FileTree} {root : String}
    {loader : Loader} (h : (r.new enumerator tree root).2.outcome = .ok loader) :
    loader.id = r.nextId :=
  Loader.id_of_build h

/-- A loader that comes out of a build is what the build succeeds with. -/
theorem ok_of_toOption {outcome : Except Error Loader} {loader : Loader}
    (h : outcome.toOption = some loader) : outcome = .ok loader := by
  cases outcome with
  | error e => cases h
  | ok other => exact congrArg Except.ok (Option.some.inj h)

/-- **A loader that is built** bears the number that was next, which is then taken. -/
theorem id_of_built? {r : Registry} {request : Request} {loader : Loader}
    (h : r.built? request = some loader) :
    loader.id = r.nextId ∧ (r.after request).nextId = r.nextId + 1 := by
  cases request with
  | new enumerator tree root => exact ⟨id_of_new (ok_of_toOption h), rfl⟩
  | invalidate key => cases h
  | clear => cases h
  | get enumerator tree root =>
    unfold built? at h
    dsimp only at h
    split at h
    · cases h
    · next hcondition =>
      have hreply := ok_of_toOption h
      cases hcaches : r.caches with
      | false =>
        show _ ∧ (r.get enumerator tree root).1.nextId = _
        rw [get_of_not_caches hcaches] at hreply ⊢
        exact ⟨id_of_new hreply, rfl⟩
      | true =>
        rw [hcaches] at hcondition
        have heffect := effect_after hcaches (.get enumerator tree root)
        generalize r.after (.get enumerator tree root) = r' at heffect
        cases heffect with
        | hit _ _ _ kept hkept _ => simp [hkept] at hcondition
        | failed _ _ _ e _ herror => cases herror.symm.trans hreply
        | built _ _ _ built _ hbuilt hbuild =>
          obtain rfl := Except.ok.inj (hbuilt.symm.trans hreply)
          exact ⟨Loader.id_of_build hbuild, rfl⟩

/-- Numbers are not given back by a request. -/
theorem nextId_le_after (r : Registry) (request : Request) :
    r.nextId ≤ (r.after request).nextId := by
  cases hcaches : r.caches with
  | true =>
    have heffect := effect_after hcaches request
    generalize r.after request = r' at heffect
    cases heffect <;> simp
  | false =>
    cases request with
    | get enumerator tree root =>
      show r.nextId ≤ (r.get enumerator tree root).1.nextId
      rw [get_of_not_caches hcaches]
      exact Nat.le_succ r.nextId
    | new enumerator tree root => exact Nat.le_succ r.nextId
    | clear => exact Nat.le_refl r.nextId
    | invalidate key =>
      show r.nextId ≤ (r.invalidate key).1.nextId
      rw [invalidate_fst]

/-- Numbers are not given back by any requests. -/
theorem nextId_le_run (r : Registry) (requests : List Request) :
    r.nextId ≤ (r.run requests).nextId := by
  induction requests generalizing r with
  | nil => exact Nat.le_refl r.nextId
  | cons request requests ih => exact (r.nextId_le_after request).trans (ih (r.after request))

/-- **The loaders built in a run** bear ascending numbers, all below the next one. -/
theorem ids_builtIn (r : Registry) (requests : List Request) :
    ((r.builtIn requests).map Loader.id).Pairwise (· < ·) ∧
      ∀ loader ∈ r.builtIn requests,
        r.nextId ≤ loader.id ∧ loader.id < (r.run requests).nextId := by
  induction requests generalizing r with
  | nil => simp [builtIn]
  | cons request requests ih =>
    obtain ⟨hpairwise, hbounds⟩ := ih (r.after request)
    have hfirst := r.nextId_le_after request
    unfold builtIn
    cases hbuilt : r.built? request with
    | none =>
      refine ⟨hpairwise, fun loader hloader => ?_⟩
      obtain ⟨hlower, hupper⟩ := hbounds loader hloader
      exact ⟨hfirst.trans hlower, hupper⟩
    | some built =>
      obtain ⟨hid, hnext⟩ := id_of_built? hbuilt
      have hlast := (r.after request).nextId_le_run requests
      constructor
      · refine List.pairwise_cons.2 ⟨?_, hpairwise⟩
        intro later hlater
        obtain ⟨loader, hloader, rfl⟩ := List.mem_map.1 hlater
        have hlower := (hbounds loader hloader).1
        omega
      · intro loader hloader
        rcases List.mem_cons.1 hloader with rfl | hloader
        · rw [run_cons]
          omega
        · obtain ⟨hlower, hupper⟩ := hbounds loader hloader
          exact ⟨hfirst.trans hlower, hupper⟩

/-! ## Main statement -/

/-- What is known of a registry that keeps loaders, after some requests. -/
structure CachingRun (r : Registry) (requests : List Request) : Prop where
  /-- A request for a loader is a hit exactly when a loader was got for its key before and was not
  forgotten since. -/
  hit_iff : ∀ enumerator tree root,
    ((r.run requests).get enumerator tree root).1.hits = (r.run requests).hits + 1 ↔
      ∃ loader, r.GotBefore requests (.of enumerator.contextId root) loader
  /-- That very loader is handed out then, whatever the enumerator and the files show by now, and
  nothing is listed or said. -/
  get_eq : ∀ enumerator tree root loader,
    r.GotBefore requests (.of enumerator.contextId root) loader →
      (r.run requests).get enumerator tree root =
        ({ r.run requests with hits := (r.run requests).hits + 1 }, ⟨[], .ok loader⟩)
  /-- Hits and misses together are the requests for a loader. -/
  hits_add_misses : (r.run requests).stats.hits + (r.run requests).stats.misses =
    requests.countP Request.isGet
  /-- The numbers taken are those of the misses and of the requests for a new loader. -/
  built : (r.run requests).stats.built =
    (r.run requests).stats.misses + requests.countP Request.isNew
  /-- No more loaders are kept than were missed. -/
  cached_le : (r.run requests).stats.cached ≤ (r.run requests).stats.misses
  /-- The loaders built bear numbers of their own, in the order in which they were built. -/
  ids : ((r.builtIn requests).map Loader.id).Pairwise (· < ·)
  /-- These are below the next number. -/
  id_lt : ∀ loader ∈ r.builtIn requests, loader.id < (r.run requests).stats.built
  /-- A request that ends in an error leaves the loaders as they are. -/
  loaders_eq : ∀ request e, (r.run requests).reply? request = some (.error e) →
    ((r.run requests).after request).loaders = (r.run requests).loaders

/-- What is known of a registry that keeps no loaders, after some requests. -/
structure PassingRun (r : Registry) (requests : List Request) : Prop where
  /-- No loader is kept. -/
  loaders : (r.run requests).loaders = ∅
  /-- No hit is counted. -/
  hits : (r.run requests).stats.hits = 0
  /-- No miss is counted. -/
  misses : (r.run requests).stats.misses = 0
  /-- Each request for a loader has taken a number. -/
  built : (r.run requests).stats.built =
    requests.countP fun request => request.isGet || request.isNew
  /-- A loader that is handed out next bears the next number. -/
  id_eq : ∀ request loader, (r.run requests).reply? request = some (.ok loader) →
    loader.id = (r.run requests).stats.built
  /-- So the loaders built bear numbers of their own. -/
  ids : ((r.builtIn requests).map Loader.id).Pairwise (· < ·)

/-- All this is known of a registry that keeps loaders and begins with none and no counts. -/
theorem cachingRun {r : Registry} (hcaches : r.caches = true) (hempty : r.loaders = ∅)
    (hcounted : r.Counted 0 0) (requests : List Request) : r.CachingRun requests := by
  obtain ⟨hids, hbounds⟩ := r.ids_builtIn requests
  have hrun := caches_run hcaches requests
  have hcounts := hcounted.run hcaches requests
  refine ⟨?_, ?_, hcounts.hits_add_misses, hcounts.nextId, hcounts.size_le, hids, ?_, ?_⟩
  · intro enumerator tree root
    simp only [← getElem?_run_iff hcaches hempty]
    exact hits_get_eq_iff hrun
  · intro enumerator tree root loader hgot
    exact get_of_gotBefore hcaches hempty hgot tree
  · intro loader hloader
    exact (hbounds loader hloader).2
  · intro request e herror
    exact loaders_after_of_error hrun herror

/-- All this is known of a registry that keeps none and begins with no counts. -/
theorem passingRun {r : Registry} (hpassing : r.Passing 0) (requests : List Request) :
    r.PassingRun requests := by
  have hrun := hpassing.run requests
  have hids := (r.ids_builtIn requests).1
  refine ⟨hrun.loaders, hrun.hits, hrun.misses, hrun.nextId, ?_, hids⟩
  intro request loader hreply
  cases request with
  | get enumerator tree root =>
    have hget := Option.some.inj hreply
    rw [get_of_not_caches hrun.caches] at hget
    exact id_of_new hget
  | new enumerator tree root => exact id_of_new (Option.some.inj hreply)
  | invalidate key => cases hreply
  | clear => cases hreply

/-- **What a run leads to.** A new registry is used by any requests, while anything may change
between them and any build may fail. If it keeps loaders, a request for one is a hit exactly when
one was got before for the key and not forgotten since, and is answered with that loader; the counts
and the numbers of the loaders add up. If it keeps none, every request builds a loader with a number
of its own, and nothing is counted. -/
theorem run_create (settings : Settings) (enumerator : Enumerator) (factories : FactoryTable)
    (requests : List Request) :
    if settings.cache = true then (create settings enumerator factories).CachingRun requests
    else (create settings enumerator factories).PassingRun requests := by
  split
  · next hcache =>
    refine cachingRun hcache rfl ⟨rfl, rfl, ?_⟩ requests
    simp [create]
  · next hcache =>
    have hoff : settings.cache = false := Bool.eq_false_iff.2 hcache
    exact passingRun ⟨hoff, rfl, rfl, rfl, rfl⟩ requests

end Registry

end Wiring
