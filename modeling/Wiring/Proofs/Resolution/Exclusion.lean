import Wiring.Proofs.Diagnostics.Interjected
import Wiring.Proofs.Records.Family
import Wiring.Resolution.Resolved

/-!
# Resolution · Excluded resources

A resource whose fingerprint is excluded is as if it were absent, whatever its content. The run that
excludes resources is compared with the run without any exclusion over a view that does not list
them (`View.without`). Both end alike and say the same, but that an excluded resource is remarked
upon when it is reached (`skippedBelow`): its family is read if those before it can be, and it comes
before the first resource of its family that is kept and cannot be decoded. Main statement:
`load_without_excluded`. Findings on disk are no notes and are not compared.
-/

namespace Wiring

open Report (Interjects)

/-! ## Leaving resources out -/

/-- The overrides with nothing excluded. -/
def Overrides.withoutExclusion (overrides : Overrides) : Overrides :=
  { overrides with excluded := ∅ }

/-- The view that does not list the resources that are excluded. -/
def View.without (view : View) (overrides : Overrides) : View :=
  { view with find := fun path => (view.find path).map (keptResources overrides) }

/-- What is said of an excluded resource. -/
def skippedNote (resource : Resource) : Note :=
  ⟨.info, s!"Excluded resource skipped: {resource.location}, fingerprint {resource.fingerprint}",
    false⟩

/-- The excluded ones among the resources of a family that are reached: up to the first one that is
kept and cannot be decoded. -/
def reachedExcluded (overrides : Overrides) (resources : List Resource) : List Resource :=
  (resources.takeWhile fun r => r.fingerprint ∈ overrides.excluded || r.decode.isOk).filter
    fun r => r.fingerprint ∈ overrides.excluded

/-- The families that are read before a family. -/
def Family.before : Family → List Family :=
  each [] [.services] [.services, .applies] [.services, .applies, .plugins]

namespace Records

variable {overrides : Overrides} {resource : Resource}

/-! ## One family -/

/-- An excluded resource is skipped with a note. -/
theorem readResource_of_excluded (h : resource.fingerprint ∈ overrides.excluded) :
    readResource overrides resource =
      .say .info (skippedNote resource).text >>= fun _ => Pure.pure [] := by
  rw [readResource]
  simp only [h, if_true]
  rfl

/-- A resource that is kept is read as if nothing were excluded. -/
theorem readResource_of_kept (h : resource.fingerprint ∉ overrides.excluded) :
    readResource overrides resource = readResource overrides.withoutExclusion resource := by
  have hnone : resource.fingerprint ∉ overrides.withoutExclusion.excluded :=
    Std.ExtTreeSet.not_mem_empty
  rw [readResource, readResource]
  simp only [h, hnone, if_false]

/-- An excluded resource is passed. -/
theorem reachedExcluded_of_excluded {resources : List Resource}
    (h : resource.fingerprint ∈ overrides.excluded) :
    reachedExcluded overrides (resource :: resources) =
      resource :: reachedExcluded overrides resources := by
  simp [reachedExcluded, h]

/-- A resource that is kept is passed if it can be read. -/
theorem reachedExcluded_of_kept {resources : List Resource}
    (h : resource.fingerprint ∉ overrides.excluded) :
    reachedExcluded overrides (resource :: resources) =
      if (readResource overrides resource).outcome.isOk then reachedExcluded overrides resources
      else [] := by
  have hread : (readResource overrides resource).outcome.isOk = resource.decode.isOk := by
    rw [outcome_readResource, if_neg h]
    cases resource.decode <;> rfl
  rw [hread, reachedExcluded, List.takeWhile_cons]
  cases resource.decode.isOk <;> simp [h, reachedExcluded]

/-- The entries of several resources: those of the first one and those of the rest. -/
theorem mapM_flatten_cons {α β : Type} (f : α → Report (List β)) (x : α) (xs : List α) :
    ((x :: xs).mapM f >>= fun lists => Pure.pure lists.flatten) =
      f x >>= fun list => (xs.mapM f >>= fun lists => Pure.pure lists.flatten) >>=
        fun rest => Pure.pure (list ++ rest) := by
  simp only [List.mapM_cons, bind_assoc, pure_bind, List.flatten_cons]

/-- **Reading resources of which some are excluded** is reading the others, but for what is said. -/
theorem interjects_mapM_readResource (overrides : Overrides) (resources : List Resource) :
    Interjects ((reachedExcluded overrides resources).map skippedNote)
      ((keptResources overrides resources).mapM (readResource overrides.withoutExclusion) >>=
        fun lists => Pure.pure lists.flatten)
      (resources.mapM (readResource overrides) >>= fun lists => Pure.pure lists.flatten) := by
  induction resources with
  | nil => exact .refl _
  | cons resource resources ih =>
    rw [mapM_flatten_cons]
    by_cases h : resource.fingerprint ∈ overrides.excluded
    · have hkept : keptResources overrides (resource :: resources) =
          keptResources overrides resources := by simp [keptResources, h]
      rw [hkept, reachedExcluded_of_excluded h, readResource_of_excluded h, List.map_cons]
      simp only [bind_assoc, pure_bind, List.nil_append] at ih ⊢
      exact ih.say_bind .info (skippedNote resource).text
    · have hkept : keptResources overrides (resource :: resources) =
          resource :: keptResources overrides resources := by simp [keptResources, h]
      have hall := (Interjects.refl (readResource overrides resource)).bind fun list _ =>
        ih.bind_left fun rest => Pure.pure (list ++ rest)
      rw [hkept, mapM_flatten_cons, reachedExcluded_of_kept h, ← readResource_of_kept h,
        apply_ite (List.map skippedNote), List.map_nil]
      exact hall

/-- The excluded resources of a family that are reached when it is read. -/
def skippedIn (view : View) (overrides : Overrides) (root : String) (family : Family) :
    List Resource :=
  match view.find (root ++ family.file) with
  | .error _ => []
  | .ok resources => reachedExcluded overrides resources

/-- **The entries of a family** are those of the view without the excluded resources. -/
theorem interjects_readFamily (view : View) (overrides : Overrides) (root : String)
    (family : Family) :
    Interjects ((skippedIn view overrides root family).map skippedNote)
      (readFamily (view.without overrides) overrides.withoutExclusion root family)
      (readFamily view overrides root family) := by
  unfold readFamily skippedIn
  dsimp only
  cases hfind : view.find (root ++ family.file) with
  | error cause =>
    have hwithout : (view.without overrides).find (root ++ family.file) = .error cause := by
      simp only [View.without, hfind, Except.map]
    simp only [View.enumerate, hfind, hwithout]
    exact .refl _
  | ok resources =>
    have hwithout : (view.without overrides).find (root ++ family.file) =
        .ok (keptResources overrides resources) := by
      simp only [View.without, hfind, Except.map]
    refine .bind_of_silent ?_ ?_ (Report.notes_enumerate _ _ _) (Report.notes_enumerate _ _ _)
      (interjects_mapM_readResource overrides resources)
    · rw [outcome_enumerate, hwithout]
      rfl
    · rw [outcome_enumerate, hfind]
      rfl

/-! ## All families -/

/-- Whether a family can be read. -/
def canRead (view : View) (overrides : Overrides) (root : String) : Family → Bool :=
  Family.each (readServices view overrides root).outcome.isOk
    (readApplies view overrides root).outcome.isOk (readPlugins view overrides root).outcome.isOk
    (readIgnores view overrides root).outcome.isOk

/-- The excluded resources that are reached: those of each family before which all others can be
read. -/
def skippedBelow (view : View) (overrides : Overrides) (root : String) : List Resource :=
  [.services, .applies, .plugins, .ignores].flatMap fun family : Family =>
    if family.before.all (canRead view overrides root) then skippedIn view overrides root family
    else []

/-- The excluded resources that are reached, family after family. -/
theorem skippedBelow_eq (view : View) (overrides : Overrides) (root : String) :
    skippedBelow view overrides root = skippedIn view overrides root .services ++
      if (readServices view overrides root).outcome.isOk then
        skippedIn view overrides root .applies ++
          if (readApplies view overrides root).outcome.isOk then
            skippedIn view overrides root .plugins ++
              if (readPlugins view overrides root).outcome.isOk then
                skippedIn view overrides root .ignores
              else []
          else []
      else [] := by
  unfold skippedBelow
  cases hs : (readServices view overrides root).outcome.isOk <;>
    cases ha : (readApplies view overrides root).outcome.isOk <;>
    cases hp : (readPlugins view overrides root).outcome.isOk <;>
    simp [canRead, Family.before, Family.each, hs, ha, hp]

/-- **Reading all records** is reading those of the resources that are not excluded. -/
theorem interjects_readAll (view : View) (overrides : Overrides) (root : String) :
    Interjects ((skippedBelow view overrides root).map skippedNote)
      (readAll (view.without overrides) overrides.withoutExclusion root)
      (readAll view overrides root) := by
  -- what is done with the entries of a family depends on the variables alone
  have hservices : Interjects ((skippedIn view overrides root .services).map skippedNote)
      (readServices (view.without overrides) overrides.withoutExclusion root)
      (readServices view overrides root) :=
    (interjects_readFamily view overrides root .services).bind_left _
  have happlies : Interjects ((skippedIn view overrides root .applies).map skippedNote)
      (readApplies (view.without overrides) overrides.withoutExclusion root)
      (readApplies view overrides root) :=
    (interjects_readFamily view overrides root .applies).bind_left _
  have hplugins : Interjects ((skippedIn view overrides root .plugins).map skippedNote)
      (readPlugins (view.without overrides) overrides.withoutExclusion root)
      (readPlugins view overrides root) :=
    (interjects_readFamily view overrides root .plugins).bind_left _
  have hignores : Interjects ((skippedIn view overrides root .ignores).map skippedNote)
      (readIgnores (view.without overrides) overrides.withoutExclusion root)
      (readIgnores view overrides root) :=
    (interjects_readFamily view overrides root .ignores).bind_left _
  have hall := hservices.bind fun services _ => happlies.bind fun applies _ =>
    hplugins.bind fun plugins _ => hignores.bind_left fun ignores =>
      Pure.pure (⟨services, applies, plugins, ignores⟩ : Records)
  rw [skippedBelow_eq]
  simp only [List.map_append, apply_ite (List.map skippedNote), List.map_nil]
  exact hall

end Records

namespace Resolved

open Records

/-- **An excluded resource is as if it were absent.** Loading is the same, in failure as in success,
as loading with nothing excluded over a view that does not list the resources whose fingerprints are
excluded. At each verbosity the same notes are shown in the same order, but for one note for each
excluded resource that is reached, which is not shown at the lowest verbosity. -/
theorem load_without_excluded (view : View) (root : String) (overrides : Overrides) :
    (load view root overrides).outcome =
      (load (view.without overrides) root overrides.withoutExclusion).outcome ∧
    ∀ v : Verbosity, Interleaved
      ((load (view.without overrides) root overrides.withoutExclusion).shown v)
      (if v = .error then []
        else (skippedBelow view overrides (normalizeRoot root)).map skippedNote)
      ((load view root overrides).shown v) := by
  have hload : Interjects ((skippedBelow view overrides (normalizeRoot root)).map skippedNote)
      (load (view.without overrides) root overrides.withoutExclusion) (load view root overrides) :=
    (interjects_readAll view overrides (normalizeRoot root)).bind_left _
  have hskipped : ∀ note ∈ (skippedBelow view overrides (normalizeRoot root)).map skippedNote,
      note.severity ≠ .error ∧ note.severity.threshold = .info ∧ note.brief = false := by
    intro note hnote
    obtain ⟨resource, -, rfl⟩ := List.mem_map.1 hnote
    exact ⟨nofun, rfl, rfl⟩
  refine ⟨hload.outcome_eq, fun v => ?_⟩
  have hshown := hload.shown v
  by_cases hv : v = .error
  · subst hv
    have hnone := Report.filter_admits_error fun note hnote => (hskipped note hnote).1
    rwa [hnone] at hshown
  · rw [if_neg hv]
    rwa [Report.filter_admits_eq_self (fun note hnote => (hskipped note hnote).2) hv] at hshown

end Resolved

end Wiring
