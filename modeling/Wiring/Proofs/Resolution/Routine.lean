import Wiring.Proofs.Diagnostics.Notes
import Wiring.Resolution.Resolved

/-!
# Resolution · What is said on the way

The notes of a resolution are routine: none of them announces a failure, and those that are left out
in full detail tell of progress. Failures are not said, they are the outcome; who runs the work says
them. One lemma for each step, in the order of the work. Main statement: `saysOnly_load`.
-/

namespace Wiring

open Report

/-- Whether a note announces no failure, and tells of progress if it is left out in full detail. -/
structure Note.IsRoutine (note : Note) : Prop where
  /-- No failure is announced. -/
  severity_ne : note.severity ≠ .error
  /-- Only progress is summed up. -/
  severity_eq_of_brief : note.brief = true → note.severity = .info

/-- Anything but a failure may be said. -/
theorem Report.saysOnly_routine {severity : Severity} (h : severity ≠ .error) (text : String) :
    (say severity text).SaysOnly Note.IsRoutine :=
  saysOnly_say ⟨h, nofun⟩

/-- Progress may be summed up. -/
theorem Report.saysOnly_routine_sumUp (text : String) : (sumUp text).SaysOnly Note.IsRoutine :=
  saysOnly_sumUp ⟨nofun, fun _ => rfl⟩

namespace Records

/-! ## Reading -/

/-- A resource is skipped, read and found empty with routine notes. -/
theorem saysOnly_readResource (overrides : Overrides) (resource : Resource) :
    (readResource overrides resource).SaysOnly Note.IsRoutine := by
  unfold readResource
  dsimp only
  split
  · exact (saysOnly_routine (by decide) _).bind_pure _
  · refine (saysOnly_routine (by decide) _).bind fun _ =>
      (saysOnly_ofSyntax _).bind fun _ => ?_
    split
    · exact (saysOnly_routine (by decide) _).bind_pure _
    · exact saysOnly_pure _

/-- The resources of a family are read with routine notes. -/
theorem saysOnly_readFamily (view : View) (overrides : Overrides) (root : String)
    (family : Family) : (readFamily view overrides root family).SaysOnly Note.IsRoutine :=
  (saysOnly_of_notes_eq_nil (notes_enumerate view _ _)).bind fun resources =>
    (saysOnly_mapM (saysOnly_readResource overrides) resources).bind_pure _

/-- A service entry is parsed with routine notes, and refused without one. -/
theorem saysOnly_addService (root : String) (services : Table (Table ServiceDefinition))
    (entry : Entry) : (addService root services entry).SaysOnly Note.IsRoutine := by
  refine (saysOnly_ofSyntax _).bind fun d =>
    (saysOnly_routine (by decide) _).bind fun _ => ?_
  split
  · exact saysOnly_fail _
  · exact saysOnly_pure _

/-- Apply records are joined with routine notes, which warn of what is passed over. -/
theorem saysOnly_joinApply (overrides : Overrides) (first second : ApplyRecord) :
    (joinApply overrides first second).SaysOnly Note.IsRoutine := by
  unfold joinApply
  split
  · exact (saysOnly_routine (by decide) _).bind_pure _
  · dsimp only
    split
    · exact (saysOnly_routine (by decide) _).bind_pure _
    · exact saysOnly_fail _

/-- An apply entry is parsed with routine notes. -/
theorem saysOnly_addApply (overrides : Overrides) (applies : Table ApplyRecord) (entry : Entry) :
    (addApply overrides applies entry).SaysOnly Note.IsRoutine := by
  refine (saysOnly_ofSyntax _).bind fun d =>
    (saysOnly_routine (by decide) _).bind fun _ => ?_
  split
  · exact saysOnly_pure _
  · exact (saysOnly_joinApply overrides _ _).bind_pure _

/-- A plugin entry is parsed with routine notes. -/
theorem saysOnly_addPlugin (root : String) (plugins : Table (List PluginDefinition))
    (entry : Entry) : (addPlugin root plugins entry).SaysOnly Note.IsRoutine :=
  (saysOnly_ofSyntax _).bind fun _ => (saysOnly_routine (by decide) _).bind_pure _

/-- The items of an ignore entry are parsed with routine notes. -/
theorem saysOnly_addIgnores (ignores : Table (List IgnoreRule)) (entry : Entry) :
    (addIgnores ignores entry).SaysOnly Note.IsRoutine := by
  have hrule (contract item : String) :
      (readRule contract entry.source item).SaysOnly Note.IsRoutine :=
    (saysOnly_ofSyntax _).bind fun _ => (saysOnly_routine (by decide) _).bind_pure _
  exact (saysOnly_ofSyntax _).bind fun contract =>
    (saysOnly_mapM (hrule contract) _).bind_pure _

/-- All that is said while records are read is routine. -/
theorem saysOnly_readAll (view : View) (overrides : Overrides) (root : String) :
    (readAll view overrides root).SaysOnly Note.IsRoutine :=
  ((saysOnly_readFamily view overrides root .services).bind
    (saysOnly_foldlM (saysOnly_addService root) ∅)).bind fun _ =>
  ((saysOnly_readFamily view overrides root .applies).bind
    (saysOnly_foldlM (saysOnly_addApply overrides) ∅)).bind fun _ =>
  ((saysOnly_readFamily view overrides root .plugins).bind
    (saysOnly_foldlM (saysOnly_addPlugin root) ∅)).bind fun _ =>
  ((saysOnly_readFamily view overrides root .ignores).bind
    (saysOnly_foldlM saysOnly_addIgnores ∅)).bind_pure _

end Records

/-! ## Resolving -/

namespace ServiceChoice

/-- A service is selected with routine notes: an id that is not defined is warned of. -/
theorem saysOnly_select (contract : String) (definitions : Table ServiceDefinition)
    (apply : Option ApplyRecord) (overrides : Overrides) :
    (select contract definitions apply overrides).SaysOnly Note.IsRoutine := by
  have hvariable : (byVariable contract definitions overrides).SaysOnly Note.IsRoutine := by
    unfold byVariable
    split
    · exact saysOnly_pure _
    · dsimp only
      split
      · exact saysOnly_pure _
      · exact (saysOnly_routine (by decide) _).bind_pure _
  have hrecord : (byRecord contract definitions apply).SaysOnly Note.IsRoutine := by
    unfold byRecord
    split
    · exact saysOnly_pure _
    · split
      · exact saysOnly_fail _
      · exact saysOnly_pure _
      · exact (saysOnly_routine (by decide) _).bind_pure _
  refine hvariable.bind fun choice => ?_
  split
  · exact saysOnly_pure _
  · refine hrecord.bind fun choice => ?_
    split
    · exact saysOnly_pure _
    · exact saysOnly_of_notes_eq_nil rfl

/-- A choice is announced with routine notes. -/
theorem saysOnly_announce (choice : ServiceChoice) :
    choice.announce.SaysOnly Note.IsRoutine :=
  (saysOnly_routine (by decide) _).bind fun _ => (saysOnly_routine (by decide) _).bind fun _ =>
    saysOnly_forM (fun _ => saysOnly_routine (by decide) _) _

end ServiceChoice

namespace PluginOrder

/-- A selector is applied with routine notes: one that selects nothing is warned of. -/
theorem saysOnly_disable (contract : String) (definitions : List PluginDefinition)
    (s : Selector) : (disable contract definitions s).SaysOnly Note.IsRoutine := by
  unfold disable
  split
  · exact (saysOnly_routine (by decide) _).bind_pure _
  · exact saysOnly_pure _

/-- An order is announced with routine notes, some of which only sum up. -/
theorem saysOnly_announce (order : PluginOrder) : order.announce.SaysOnly Note.IsRoutine := by
  refine (saysOnly_forM (fun _ => saysOnly_routine (by decide) _) _).bind fun _ =>
    (saysOnly_forM (fun _ => saysOnly_routine (by decide) _) _).bind fun _ =>
    (saysOnly_forM (fun _ => saysOnly_routine_sumUp _) _).bind fun _ => ?_
  dsimp only
  split
  · exact saysOnly_routine_sumUp _
  · exact saysOnly_pure _

/-- The plugins of a contract are put in order with routine notes. -/
theorem saysOnly_resolve (contract : String) (definitions : List PluginDefinition)
    (rules : List IgnoreRule) (overrides : Overrides) :
    (resolve contract definitions rules overrides).SaysOnly Note.IsRoutine := by
  have hitem (definitions : List PluginDefinition) (item : String) :
      (disableItem contract definitions item).SaysOnly Note.IsRoutine :=
    (saysOnly_ofSyntax _).bind fun _ => saysOnly_disable contract definitions _
  exact (saysOnly_foldlM hitem definitions _).bind fun definitions =>
    (saysOnly_foldlM (saysOnly_disable contract) definitions _).bind fun _ =>
    (saysOnly_announce _).bind_pure _

end PluginOrder

namespace Resolved

/-- **All that is said while a root is resolved is routine**, whether this succeeds or fails. -/
theorem saysOnly_load (view : View) (root : String) (overrides : Overrides) :
    (load view root overrides).SaysOnly Note.IsRoutine := by
  have hchoice (records : Records) (choices : Table ServiceChoice)
      (service : String × Table ServiceDefinition) :
      (addChoice records overrides choices service).SaysOnly Note.IsRoutine :=
    ((ServiceChoice.saysOnly_select _ _ _ _).bind fun _ =>
      (ServiceChoice.saysOnly_announce _).bind_pure _).bind_pure _
  have horder (records : Records) (orders : Table PluginOrder) (contract : String) :
      (addOrder records overrides orders contract).SaysOnly Note.IsRoutine :=
    (PluginOrder.saysOnly_resolve _ _ _ _).bind_pure _
  exact (Records.saysOnly_readAll view overrides _).bind fun records =>
    (saysOnly_foldlM (hchoice records) ∅ _).bind fun _ =>
    (saysOnly_forM (fun _ => saysOnly_routine (by decide) _) _).bind fun _ =>
    (saysOnly_foldlM (horder records) ∅ _).bind_pure _

end Resolved

end Wiring
