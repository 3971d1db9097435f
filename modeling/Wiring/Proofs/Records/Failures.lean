import Wiring.Proofs.Outcome
import Wiring.Records.Read

/-!
# Records · How reading fails

The errors that can end the reading of records: resources that cannot be listed, malformed text, two
definitions of one name, and apply records that disagree (`Error.OfReading`). Main statement:
`failsOnlyWith_readAll`; in particular levels play no part before anything is resolved. Only service
definitions and apply records can contradict each other: what ends the reading of one resource, of
plugin definitions or of ignore rules is no conflict (`Error.OfText`).
-/

namespace Wiring

/-- The errors that reading can end with. -/
inductive Error.OfReading : Error → Prop
  /-- The resources at a path cannot be listed. -/
  | enumeration (path cause : String) : OfReading (.enumeration path cause)
  /-- A resource or an entry is malformed. -/
  | malformed (cause : SyntaxError) : OfReading (.malformed cause)
  /-- Two service definitions bear one name. -/
  | duplicateId (contract id first second : String) :
      OfReading (.conflict (.duplicateId contract id first second))
  /-- Two apply records of one contract name different ids. -/
  | applyDisagreement (contract firstId first secondId second : String) :
      OfReading (.conflict (.applyDisagreement contract firstId first secondId second))

/-- The errors over resources that cannot be listed or understood. -/
inductive Error.OfText : Error → Prop
  /-- The resources at a path cannot be listed. -/
  | enumeration (path cause : String) : OfText (.enumeration path cause)
  /-- A resource or an entry is malformed. -/
  | malformed (cause : SyntaxError) : OfText (.malformed cause)

/-- An error over a text is one that reading can end with. -/
theorem Error.OfText.ofReading {e : Error} (h : e.OfText) : e.OfReading := by
  cases h with
  | enumeration path cause => exact .enumeration path cause
  | malformed cause => exact .malformed cause

namespace Records

open Report

/-- A resource fails only over its text. -/
theorem failsOnlyWith_readResource (overrides : Overrides) (resource : Resource) :
    (readResource overrides resource).FailsOnlyWith Error.OfText := by
  unfold readResource
  dsimp only
  split
  · exact failsOnlyWith_of_ok rfl
  · refine (failsOnlyWith_of_ok rfl).bind fun _ => ?_
    refine (failsOnlyWith_ofSyntax .malformed _).bind fun properties => ?_
    split <;> exact failsOnlyWith_of_ok rfl

/-- The entries of a family fail only over their texts, or over the list of resources. -/
theorem failsOnlyWith_readFamily (view : View) (overrides : Overrides) (root : String)
    (family : Family) :
    (readFamily view overrides root family).FailsOnlyWith Error.OfText := by
  unfold readFamily
  have hlist : (view.enumerate (root ++ family.file)
      (.enumeration (root ++ family.file))).FailsOnlyWith Error.OfText := by
    unfold View.enumerate
    split
    · exact failsOnlyWith_fail (.enumeration _ _)
    · exact failsOnlyWith_of_ok rfl
  refine hlist.bind fun resources => ?_
  refine (failsOnlyWith_mapM (failsOnlyWith_readResource overrides) resources).bind fun _ => ?_
  exact failsOnlyWith_of_ok rfl

/-- Service definitions fail over a text or over a name that comes twice. -/
theorem failsOnlyWith_readServices (view : View) (overrides : Overrides) (root : String) :
    (readServices view overrides root).FailsOnlyWith Error.OfReading := by
  have hfamily := failsOnlyWith_readFamily view overrides root .services
  refine (hfamily.mono fun _ h => h.ofReading).bind fun entries => ?_
  refine failsOnlyWith_foldlM (fun services entry => ?_) ∅ entries
  refine (failsOnlyWith_ofSyntax .malformed _).bind fun d => ?_
  refine (failsOnlyWith_of_ok rfl).bind fun _ => ?_
  split
  · exact failsOnlyWith_fail (.duplicateId _ _ _ _)
  · exact failsOnlyWith_of_ok rfl

/-- Apply records fail to be joined only over a disagreement. -/
theorem failsOnlyWith_joinApply (overrides : Overrides) (first second : ApplyRecord) :
    (joinApply overrides first second).FailsOnlyWith Error.OfReading := by
  unfold joinApply
  split
  · exact failsOnlyWith_of_ok rfl
  · dsimp only
    split
    · exact failsOnlyWith_of_ok rfl
    · exact failsOnlyWith_fail (.applyDisagreement _ _ _ _ _)

/-- Apply records fail over a text or over a disagreement. -/
theorem failsOnlyWith_readApplies (view : View) (overrides : Overrides) (root : String) :
    (readApplies view overrides root).FailsOnlyWith Error.OfReading := by
  have hfamily := failsOnlyWith_readFamily view overrides root .applies
  refine (hfamily.mono fun _ h => h.ofReading).bind fun entries => ?_
  refine failsOnlyWith_foldlM (fun applies entry => ?_) ∅ entries
  refine (failsOnlyWith_ofSyntax .malformed _).bind fun record => ?_
  refine (failsOnlyWith_of_ok rfl).bind fun _ => ?_
  split
  · exact failsOnlyWith_of_ok rfl
  · next first _ =>
    exact (failsOnlyWith_joinApply overrides first record).bind fun _ => failsOnlyWith_of_ok rfl

/-- Plugin definitions fail only over a text. -/
theorem failsOnlyWith_readPlugins (view : View) (overrides : Overrides) (root : String) :
    (readPlugins view overrides root).FailsOnlyWith Error.OfText := by
  refine (failsOnlyWith_readFamily view overrides root .plugins).bind fun entries => ?_
  refine failsOnlyWith_foldlM (fun plugins entry => ?_) ∅ entries
  exact (failsOnlyWith_ofSyntax .malformed _).bind fun d => failsOnlyWith_of_ok rfl

/-- Ignore rules fail only over a text. -/
theorem failsOnlyWith_readIgnores (view : View) (overrides : Overrides) (root : String) :
    (readIgnores view overrides root).FailsOnlyWith Error.OfText := by
  refine (failsOnlyWith_readFamily view overrides root .ignores).bind fun entries => ?_
  refine failsOnlyWith_foldlM (fun ignores entry => ?_) ∅ entries
  refine (failsOnlyWith_ofSyntax .malformed _).bind fun contract => ?_
  have hitem (item : String) :
      (readRule contract entry.source item).FailsOnlyWith Error.OfText :=
    (failsOnlyWith_ofSyntax .malformed _).bind fun _ => failsOnlyWith_of_ok rfl
  exact (failsOnlyWith_mapM hitem _).bind fun _ => failsOnlyWith_of_ok rfl

/-! ## All families -/

/-- **Reading fails** only over what is listed or written, never over levels. -/
theorem failsOnlyWith_readAll (view : View) (overrides : Overrides) (root : String) :
    (readAll view overrides root).FailsOnlyWith Error.OfReading := by
  refine (failsOnlyWith_readServices view overrides root).bind fun services => ?_
  refine (failsOnlyWith_readApplies view overrides root).bind fun applies => ?_
  have hplugins := failsOnlyWith_readPlugins view overrides root
  refine (hplugins.mono fun _ h => h.ofReading).bind fun plugins => ?_
  have hignores := failsOnlyWith_readIgnores view overrides root
  refine (hignores.mono fun _ h => h.ofReading).bind fun ignores => ?_
  exact failsOnlyWith_of_ok rfl

end Records

end Wiring
