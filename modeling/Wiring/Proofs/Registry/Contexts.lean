import Wiring.Proofs.Registry.Identity
import Wiring.Proofs.Text.Lines

/-!
# Registries · Contexts of directories

The context id of a list of directories shows their paths with semicolons in between, and a registry
tells enumerators apart by their context ids alone. A semicolon within a path looks like one between
two paths, and no path at all looks like an empty one, so two lists have one id exactly when the
same pieces stand between the semicolons (`Enumerator.directoryContext_eq_iff`). A loader that was
resolved through one list is then handed out to those who ask through the other. Main statement:
after any run, a request is answered with a loader exactly when its list shows the same pieces and
its root is the same as where the loader was resolved, and the loader was not forgotten since
(`directories_told_apart`).
-/

namespace Wiring

/-! ## Context ids -/

namespace Enumerator

/-- What stands between the semicolons of a context id: the paths, each cut at its own semicolons.
No path at all looks like an empty one. -/
def pieces : List String → List String
  | [] => [""]
  | root :: roots => (root :: roots).flatMap (Text.split (· == ';'))

/-- The pieces are found again in the paths joined. -/
theorem split_intercalate (roots : List String) :
    Text.split (· == ';') (";".intercalate roots) = pieces roots := by
  unfold Text.split
  rw [String.toList_intercalate]
  cases roots with
  | nil => rfl
  | cons root roots =>
    have hsep : ";".toList = [';'] := rfl
    rw [hsep, Text.splitAt_intercalate_eq_flatMap ';' (by simp), List.map_flatMap,
      List.flatMap_map]
    rfl

/-- A text is known by what stands between its semicolons. -/
theorem split_injective {text text' : String}
    (h : Text.split (· == ';') text = Text.split (· == ';') text') : text = text' := by
  have hpieces : Text.splitAt (· == ';') text.toList = Text.splitAt (· == ';') text'.toList :=
    List.map_injective_iff.2 (fun _ _ => String.ofList_inj.1) h
  rw [← String.toList_inj, ← Text.intercalate_splitAt ';' text.toList, hpieces,
    Text.intercalate_splitAt]

/-- **Two lists of directories have one context id** exactly when they show the same pieces. -/
theorem directoryContext_eq_iff {roots roots' : List String} :
    directoryContext roots = directoryContext roots' ↔ pieces roots = pieces roots' := by
  unfold directoryContext
  rw [String.append_right_inj, ← split_intercalate, ← split_intercalate]
  exact ⟨congrArg _, split_injective⟩

/-- Paths without a semicolon are their own pieces. -/
theorem pieces_eq_self {roots : List String} (hne : roots ≠ [])
    (hplain : ∀ root ∈ roots, ';' ∉ root.toList) : pieces roots = roots := by
  have hone : ∀ root ∈ roots, Text.split (· == ';') root = [root] := by
    intro root hroot
    have hnone : ∀ c ∈ root.toList, (c == ';') = false := fun c hc =>
      beq_eq_false_iff_ne.2 fun heq => hplain root hroot (heq ▸ hc)
    unfold Text.split
    rw [Text.splitAt_eq_singleton hnone, List.map_singleton, String.ofList_toList]
  obtain ⟨root, rest, rfl⟩ := List.exists_cons_of_ne_nil hne
  show (root :: rest).flatMap (Text.split (· == ';')) = root :: rest
  rw [List.flatMap_congr hone, List.flatMap_singleton']

end Enumerator

/-- Keys are equal exactly if the contexts are and the normal forms of the roots. -/
theorem LoaderKey.of_eq_of_iff {contextId contextId' root root' : String} :
    LoaderKey.of contextId root = .of contextId' root' ↔
      contextId = contextId' ∧ normalizeRoot root = normalizeRoot root' :=
  LoaderKey.mk.injEq _ _ _ _ ▸ Iff.rfl

namespace Registry

open Enumerator (pieces directoryContext)

variable {r : Registry} {request : Request} {before later : List Request}
  {enumerator enumerator' : Enumerator} {tree files : FileTree} {root root' : String}
  {key : LoaderKey} {loader : Loader}

/-! ## Where a loader is handed out -/

/-- A loader that bears an earlier number is handed out only where it is kept. -/
theorem outcome_get_eq_ok_iff (hcaches : r.caches = true) (hid : loader.id < r.nextId) :
    (r.get enumerator tree root).2.outcome = .ok loader ↔
      r.loaders[LoaderKey.of enumerator.contextId root]? = some loader := by
  cases hkept : r.loaders[LoaderKey.of enumerator.contextId root]? with
  | some kept =>
    rw [get_of_kept hcaches hkept, Except.ok.injEq, Option.some.injEq]
  | none =>
    rw [outcome_get_of_not_kept hcaches hkept]
    refine iff_of_false (fun hbuild => ?_) (by simp)
    have hnext : loader.id = r.nextId := Loader.id_of_build hbuild
    omega

/-- **One request** leaves a loader that bears an earlier number where it is kept, or forgets it. -/
theorem getElem?_after_of_id_lt (hcaches : r.caches = true) (hid : loader.id < r.nextId) :
    (r.after request).loaders[key]? = some loader ↔
      r.loaders[key]? = some loader ∧ ¬request.Forgets key := by
  rw [getElem?_after_iff hcaches]
  refine or_iff_left_of_imp ?_
  rintro ⟨enumerator, tree, root, rfl, rfl, hreply⟩
  exact ⟨(outcome_get_eq_ok_iff hcaches hid).1 hreply, not_false⟩

/-- **A run** leaves it where it is kept as long as no request forgets it. -/
theorem getElem?_run_of_id_lt (hcaches : r.caches = true) (hid : loader.id < r.nextId) :
    (r.run later).loaders[key]? = some loader ↔
      r.loaders[key]? = some loader ∧ ∀ request ∈ later, ¬request.Forgets key := by
  refine run_induction (motive := fun r' later => r'.loaders[key]? = some loader ↔
    r.loaders[key]? = some loader ∧ ∀ request ∈ later, ¬request.Forgets key) (by simp) ?_ later
  intro later request ih
  have hlt : loader.id < (r.run later).nextId := hid.trans_le (r.nextId_le_run later)
  rw [getElem?_after_of_id_lt (caches_run hcaches later) hlt, ih, and_assoc]
  simp only [List.forall_mem_append, List.forall_mem_singleton]

/-- A loader that has just been built is kept under the key that it was built for alone. -/
theorem getElem?_after_of_built? (hcaches : r.caches = true) (hnumbered : r.Numbered)
    (hbuilt : r.built? (.get enumerator files root) = some loader) :
    (r.after (.get enumerator files root)).loaders[key]? = some loader ↔
      LoaderKey.of enumerator.contextId root = key := by
  obtain ⟨hid, -⟩ := id_of_built? hbuilt
  have hreply : (r.get enumerator files root).2.outcome = .ok loader := by
    unfold built? at hbuilt
    dsimp only at hbuilt
    split at hbuilt
    · cases hbuilt
    · exact ok_of_toOption hbuilt
  rw [getElem?_after_iff hcaches, yields_get_iff, and_iff_left hreply]
  refine or_iff_right ?_
  rintro ⟨hkept, -⟩
  have hlt := hnumbered.id_lt key loader hkept
  omega

/-- **A loader is handed out again** after any further requests exactly to those who ask for the key
that it was built for, unless it was forgotten. -/
theorem get_after_built?_iff (hcaches : r.caches = true) (hempty : r.loaders = ∅)
    (hbuilt : (r.run before).built? (.get enumerator' files root') = some loader) :
    ((r.run (before ++ .get enumerator' files root' :: later)).get enumerator tree
        root).2.outcome = .ok loader ↔
      LoaderKey.of enumerator.contextId root = .of enumerator'.contextId root' ∧
        ∀ request ∈ later, ¬request.Forgets (.of enumerator'.contextId root') := by
  have hrun := caches_run hcaches before
  have hnumbered := numbered_run hcaches hempty before
  obtain ⟨hid, hnext⟩ := id_of_built? hbuilt
  have hlt : loader.id < ((r.run before).after (.get enumerator' files root')).nextId := by
    omega
  have hcaches' := caches_after hrun (.get enumerator' files root')
  rw [run_append, run_cons, outcome_get_eq_ok_iff (caches_run hcaches' later)
    (hlt.trans_le (nextId_le_run _ later)), getElem?_run_of_id_lt hcaches' hlt,
    getElem?_after_of_built? hrun hnumbered hbuilt, @eq_comm _ (LoaderKey.of _ root')]
  exact and_congr_right fun hkey => by rw [hkey]

/-! ## Main statement -/

/-- **Contexts of directories.** Two lists of directories have one context id exactly when they show
the same pieces; lists that are not empty and whose paths hold no semicolon do so only if they are
one list. In a registry that keeps loaders, after any run in which a loader was resolved through one
list, a request through another list is answered with that loader exactly when the lists show the
same pieces, the roots are the same, and the loader was not forgotten since. -/
theorem directories_told_apart (roots roots' : List String) :
    (directoryContext roots = directoryContext roots' ↔ pieces roots = pieces roots') ∧
    ((∀ root ∈ roots ++ roots', ';' ∉ root.toList) → roots ≠ [] → roots' ≠ [] →
      (directoryContext roots = directoryContext roots' ↔ roots = roots')) ∧
    ∀ (settings : Settings) (enumerator : Enumerator) (factories : FactoryTable)
      (before later : List Request) (files tree : FileTree) (root root' : String)
      (loader : Loader), settings.cache = true →
      ((create settings enumerator factories).run before).built?
        (.get (.directories roots') files root') = some loader →
      ((((create settings enumerator factories).run
          (before ++ .get (.directories roots') files root' :: later)).get (.directories roots) tree
          root).2.outcome = .ok loader ↔
        pieces roots = pieces roots' ∧ normalizeRoot root = normalizeRoot root' ∧
          ∀ request ∈ later, ¬request.Forgets (.of (directoryContext roots') root')) := by
  refine ⟨Enumerator.directoryContext_eq_iff, ?_, ?_⟩
  · intro hplain hne hne'
    obtain ⟨hroots, hroots'⟩ := List.forall_mem_append.1 hplain
    rw [Enumerator.directoryContext_eq_iff, Enumerator.pieces_eq_self hne hroots,
      Enumerator.pieces_eq_self hne' hroots']
  · intro settings enumerator factories before later files tree root root' loader hcache hbuilt
    have hcaches : (create settings enumerator factories).caches = true := hcache
    rw [get_after_built?_iff hcaches rfl hbuilt, LoaderKey.of_eq_of_iff, and_assoc]
    exact and_congr_left' Enumerator.directoryContext_eq_iff

/-! ## Two lists with one context id -/

/-- A module `a` that defines a service. -/
def moduleA : FileTree :=
  ⟨[], .ofPairs [("a/META-INF/spi/service.properties", "g>x>library=c".toUTF8)],
    .ofNames ["a", "a/META-INF", "a/META-INF/spi"]⟩

/-- The file of the service definitions below the usual root. -/
def servicePath : String := "META-INF/spi/service.properties"

/-- How many resources some directories show at the path of the service definitions. -/
def shownBy (roots : List String) : Option Nat :=
  (((Enumerator.directories roots).view moduleA).find servicePath).toOption.map List.length

/-- Through a single directory `a;b`, which is not there, a loader is resolved. -/
theorem exists_built_semicolon :
    ∃ loader, plainRegistry.built? (.get (.directories ["a;b"]) moduleA "") = some loader := by
  rw [← Option.isSome_iff_exists]
  decide +kernel

/-- Who asks through the two directories `a` and `b` is answered with that loader, although `a`
shows a service definition and `a;b` does not. -/
theorem directories_confused :
    directoryContext ["a;b"] = directoryContext ["a", "b"] ∧
      shownBy ["a;b"] = some 0 ∧ shownBy ["a", "b"] = some 1 ∧
      ∃ loader, plainRegistry.built? (.get (.directories ["a;b"]) moduleA "") = some loader ∧
        ((plainRegistry.run [.get (.directories ["a;b"]) moduleA ""]).get (.directories ["a", "b"])
          moduleA "").2.outcome = .ok loader := by
  refine ⟨rfl, by decide +kernel, by decide +kernel, ?_⟩
  obtain ⟨loader, hbuilt⟩ := exists_built_semicolon
  refine ⟨loader, hbuilt, ?_⟩
  have hfirst : (plainRegistry.run []).built? (.get (.directories ["a;b"]) moduleA "") =
      some loader := hbuilt
  show ((plainRegistry.run ([] ++ [.get (.directories ["a;b"]) moduleA ""])).get
    (.directories ["a", "b"]) moduleA "").2.outcome = .ok loader
  exact (get_after_built?_iff rfl rfl hfirst).2 ⟨rfl, by simp⟩

/-- The loader resolved through `a;b` is handed out to those who ask through `a` and `b`, as they
show the same pieces, and not to those who ask through `a` alone. -/
theorem directories_told_apart_moduleA :
    ∃ loader, Settings.default.cache = true ∧
      plainRegistry.built? (.get (.directories ["a;b"]) moduleA "") = some loader ∧
      (((plainRegistry.run [.get (.directories ["a;b"]) moduleA ""]).get (.directories ["a", "b"])
          moduleA "").2.outcome = .ok loader ↔
        pieces ["a", "b"] = pieces ["a;b"] ∧ normalizeRoot "" = normalizeRoot "" ∧
          ∀ request ∈ ([] : List Request), ¬request.Forgets (.of (directoryContext ["a;b"]) "")) ∧
      (((plainRegistry.run [.get (.directories ["a;b"]) moduleA ""]).get (.directories ["a"])
          moduleA "").2.outcome = .ok loader ↔
        pieces ["a"] = pieces ["a;b"] ∧ normalizeRoot "" = normalizeRoot "" ∧
          ∀ request ∈ ([] : List Request), ¬request.Forgets (.of (directoryContext ["a;b"]) "")) ∧
      pieces ["a", "b"] = pieces ["a;b"] ∧ pieces ["a"] ≠ pieces ["a;b"] ∧
      (directoryContext ["a"] = directoryContext ["b"] ↔ ["a"] = ["b"]) := by
  obtain ⟨loader, hbuilt⟩ := exists_built_semicolon
  obtain ⟨-, -, hsame⟩ := directories_told_apart ["a", "b"] ["a;b"]
  obtain ⟨-, -, hother⟩ := directories_told_apart ["a"] ["a;b"]
  obtain ⟨-, hplain, -⟩ := directories_told_apart ["a"] ["b"]
  exact ⟨loader, rfl, hbuilt,
    hsame .default emptyEnumerator ⟨[]⟩ [] [] moduleA moduleA "" "" loader rfl hbuilt,
    hother .default emptyEnumerator ⟨[]⟩ [] [] moduleA moduleA "" "" loader rfl hbuilt,
    by decide +kernel, by decide +kernel, hplain (by decide) (by decide) (by decide)⟩

end Registry

end Wiring
