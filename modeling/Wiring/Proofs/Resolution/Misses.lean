import Wiring.Proofs.Diagnostics.Warnings
import Wiring.Proofs.Records.PluginTables
import Wiring.Proofs.Records.ServiceTables
import Wiring.Proofs.Resolution.Contracts

/-!
# Resolution · Variables that miss

What becomes of a resolution that succeeds when one more variable is set and names nothing: an apply
variable with the id of no definition, or an ignore variable whose items select no plugin. The two
runs are compared step by step with `Report.Adds`. Setting an apply variable also changes how apply
records are read, since a disagreement is put off then; but where the first run succeeds there is no
disagreement about that contract, so both read the same (`adds_readApplies`). Main statement: the
result is the same, and the warnings are the same and one for the id or one for each item, if the
contract is resolved at all (`load_misses`). Nothing is said of notes that are no warnings.
-/

namespace Wiring

open Report

/-! ## One contract among many -/

/-- Among distinct items only one is a given one. -/
theorem flatMap_ite_of_nodup {α β : Type} [DecidableEq α] {xs : List α} (h : xs.Nodup) (a : α)
    (ys : List β) : (xs.flatMap fun x => if x = a then ys else []) = if a ∈ xs then ys else [] := by
  induction xs with
  | nil => rfl
  | cons x xs ih =>
    obtain ⟨hx, hxs⟩ := List.nodup_cons.1 h
    rw [List.flatMap_cons, ih hxs]
    by_cases hax : x = a
    · subst hax
      simp [hx]
    · simp [hax, Ne.symm hax]

/-! ## Reading -/

namespace Records

variable {overrides overrides' : Overrides}

/-- Two records of a contract are joined alike, unless they are refused, where more variables are
set. -/
theorem adds_joinApply (hset : ∀ contract ∈ overrides.apply, contract ∈ overrides'.apply)
    (first second : ApplyRecord) :
    Adds [] (joinApply overrides first second) (joinApply overrides' first second) := by
  unfold joinApply
  by_cases hid : first.chosenId = second.chosenId
  · simp only [hid, if_true]
    exact .refl _
  · by_cases hmem : second.contract ∈ overrides.apply
    · simp only [hid, hmem, hset _ hmem, if_true, if_false]
      exact .refl _
    · simp only [hid, hmem, if_false]
      exact adds_of_error rfl _ _

/-- **Apply records that can be read** are read alike where more variables are set. -/
theorem adds_readApplies (hexcluded : overrides.excluded = overrides'.excluded)
    (hset : ∀ contract ∈ overrides.apply, contract ∈ overrides'.apply) (view : View)
    (root : String) :
    Adds [] (readApplies view overrides root) (readApplies view overrides' root) := by
  have hstep (applies : Table ApplyRecord) (entry : Entry) :
      Adds [] (addApply overrides applies entry) (addApply overrides' applies entry) := by
    refine (Adds.refl _).bind fun record _ => (Adds.refl _).bind fun _ _ => ?_
    cases applies[record.contract]? with
    | none => exact .refl _
    | some first => exact (adds_joinApply hset first record).bind_left _
  rw [readApplies, readApplies, readFamily_congr hexcluded]
  exact (Adds.refl _).bind fun entries _ => .foldlM_of_nil hstep ∅ entries

/-- **Records that can be read** are read alike where more apply variables are set. -/
theorem adds_readAll (hexcluded : overrides.excluded = overrides'.excluded)
    (hset : ∀ contract ∈ overrides.apply, contract ∈ overrides'.apply) (view : View)
    (root : String) : Adds [] (readAll view overrides root) (readAll view overrides' root) := by
  rw [readAll, readAll, readServices_congr hexcluded, readPlugins_congr hexcluded,
    readIgnores_congr hexcluded]
  exact (Adds.refl _).bind fun services _ =>
    (adds_readApplies hexcluded hset view root).bind_left _

end Records

/-! ## Services -/

namespace ServiceChoice

variable {overrides overrides' : Overrides} {contract : String}

/-- A contract is resolved alike under the same variable. -/
theorem resolve_congr (h : overrides.apply[contract]? = overrides'.apply[contract]?)
    (definitions : Table ServiceDefinition) (apply : Option ApplyRecord) :
    resolve contract definitions apply overrides =
      resolve contract definitions apply overrides' := by
  unfold resolve select byVariable
  rw [h]

/-- What is said of an apply variable that names no definition. -/
def missedVariable (contract id : String) : Note :=
  let origin := Overrides.applyVariable contract
  ⟨.warning, s!"Service id '{id}' named by {origin} is undefined for {contract}, " ++
    "falling through", false⟩

/-- **A contract whose variable misses** is resolved as if it were not set, but for a warning. -/
theorem adds_resolve_of_missed {id : String} {definitions : Table ServiceDefinition}
    (hunset : overrides.apply[contract]? = none) (hset : overrides'.apply[contract]? = some id)
    (hmiss : definitions[Text.trim id]? = none) (apply : Option ApplyRecord) :
    Adds [missedVariable contract id] (resolve contract definitions apply overrides)
      (resolve contract definitions apply overrides') := by
  have hvariable : Adds [missedVariable contract id] (byVariable contract definitions overrides)
      (byVariable contract definitions overrides') := by
    unfold byVariable
    simp only [hunset, hset, hmiss]
    exact adds_warning _ _
  exact (hvariable.bind_left _).bind_left _

end ServiceChoice

/-! ## Plugins -/

namespace PluginOrder

variable {overrides overrides' : Overrides} {contract : String}

/-- What is said of a selector that selects no plugin. -/
def missedSelector (contract : String) (s : Selector) : Note :=
  ⟨.warning, s!"Ignored plugin {s.ignored} matches no definition of {contract}, " ++
    s!"in {s.origin}", false⟩

/-- The plugins of a contract are resolved alike under the same variable. -/
theorem resolve_congr (h : overrides.ignore[contract]? = overrides'.ignore[contract]?)
    (definitions : List PluginDefinition) (rules : List IgnoreRule) :
    resolve contract definitions rules overrides =
      resolve contract definitions rules overrides' := by
  unfold resolve variableItems
  rw [h]

/-- A selector that selects nothing leaves all plugins alone and is warned of. -/
theorem adds_disable_of_missed {definitions : List PluginDefinition} {s : Selector}
    (hmiss : ∀ d ∈ definitions, s.Hits d = false) :
    Adds [missedSelector contract s] (Pure.pure definitions) (disable contract definitions s) := by
  have hnone : (definitions.any fun d => s.ignored.selects d.implementation) = false := by
    rw [List.any_eq_false]
    intro d hd
    exact Bool.eq_false_iff.1 (hmiss d hd)
  have hmap : definitions.map s.applyTo = definitions := by
    refine (List.map_congr_left fun d hd => ?_).trans (List.map_id _)
    exact Selector.applyTo_of_not_hits (hmiss d hd)
  unfold disable
  rw [hnone, hmap]
  exact adds_warning _ _

/-- Items that select nothing leave all plugins alone and are warned of one by one. -/
theorem adds_foldlM_disableItem_of_missed {definitions : List PluginDefinition}
    {items : List String} {ignored : List Implementation}
    (hparse : List.Forall₂ (fun item i =>
      Implementation.parse item contract (Overrides.ignoreVariable contract) = .ok i) items ignored)
    (hmiss : ∀ i ∈ ignored, ∀ d ∈ definitions, i.selects d.implementation = false) :
    Adds (ignored.map fun i => missedSelector contract ⟨i, Overrides.ignoreVariable contract⟩)
      (Pure.pure definitions) (items.foldlM (disableItem contract) definitions) := by
  induction hparse with
  | nil => exact .refl _
  | @cons item i items ignored hitem _ ih =>
    have hpure : (Pure.pure definitions : Report (List PluginDefinition)) =
        Pure.pure definitions >>= Pure.pure := rfl
    rw [List.foldlM_cons, disableItem_of_parse hitem, List.map_cons, hpure]
    refine (adds_disable_of_missed (hmiss i (by simp))).bind fun ds hds => ?_
    obtain rfl := Except.ok.inj hds
    exact ih fun i hi => hmiss i (by simp [hi])

/-- **Plugins whose variable misses** are resolved as if it were not set, but for warnings. -/
theorem adds_resolve_of_missed {items : String} {ignored : List Implementation}
    {definitions : List PluginDefinition} (hunset : overrides.ignore[contract]? = none)
    (hset : overrides'.ignore[contract]? = some items)
    (hparse : List.Forall₂ (fun item i =>
      Implementation.parse item contract (Overrides.ignoreVariable contract) = .ok i)
      (commaItems items) ignored)
    (hmiss : ∀ i ∈ ignored, ∀ d ∈ definitions, i.selects d.implementation = false)
    (rules : List IgnoreRule) :
    Adds (ignored.map fun i => missedSelector contract ⟨i, Overrides.ignoreVariable contract⟩)
      (resolve contract definitions rules overrides)
      (resolve contract definitions rules overrides') := by
  have hnone : variableItems contract overrides = [] := by rw [variableItems, hunset]
  have hitems : variableItems contract overrides' = commaItems items := by
    rw [variableItems, hset]
  unfold resolve
  rw [hnone, hitems]
  exact (adds_foldlM_disableItem_of_missed hparse hmiss).bind_left _

end PluginOrder

namespace Resolved

open Enumerator (Embedded viewOf)

variable {root contract : String} {records : Records} {overrides overrides' : Overrides}

/-! ## Contract by contract -/

/-- Among the contracts with definitions one is resolved with an additional warning. -/
theorem adds_addChoices {note : Note}
    (hmiss : ∀ definitions, records.services[contract]? = some definitions →
      Adds [note]
        (ServiceChoice.resolve contract definitions records.applies[contract]? overrides)
        (ServiceChoice.resolve contract definitions records.applies[contract]? overrides'))
    (hother : ∀ name, name ≠ contract → overrides.apply[name]? = overrides'.apply[name]?) :
    Adds (if contract ∈ records.services then [note] else [])
      (records.services.toList.foldlM (addChoice records overrides) ∅)
      (records.services.toList.foldlM (addChoice records overrides') ∅) := by
  have hstep (choices : Table ServiceChoice) (service : String × Table ServiceDefinition)
      (hservice : service ∈ records.services.toList) :
      Adds (if service.1 = contract then [note] else [])
        (addChoice records overrides choices service)
        (addChoice records overrides' choices service) := by
    obtain ⟨name, definitions⟩ := service
    unfold addChoice
    by_cases hname : name = contract
    · subst hname
      rw [if_pos rfl]
      refine (hmiss definitions ?_).bind_left _
      exact Std.ExtTreeMap.mem_toList_iff_getElem?_eq_some.1 hservice
    · rw [if_neg hname, ServiceChoice.resolve_congr (hother name hname)]
      exact .refl _
  have hkeys : (records.services.toList.flatMap fun service =>
      if service.1 = contract then [note] else []) =
        if contract ∈ records.services then [note] else [] := by
    have hnodup : records.services.keys.Nodup := records.services.nodup_keys
    have honce := flatMap_ite_of_nodup hnodup contract [note]
    rw [← Std.ExtTreeMap.map_fst_toList_eq_keys, List.flatMap_map,
      Std.ExtTreeMap.map_fst_toList_eq_keys] at honce
    rw [honce]
    simp only [Std.ExtTreeMap.mem_keys]
  have hfold := Adds.foldlM hstep ∅
  rwa [hkeys] at hfold

/-- Among the contracts with plugins or ignore rules one is resolved with additional warnings. -/
theorem adds_addOrders {notes : List Note}
    (hmiss : Adds notes
      (PluginOrder.resolve contract (records.plugins.getD contract [])
        (records.ignores.getD contract []) overrides)
      (PluginOrder.resolve contract (records.plugins.getD contract [])
        (records.ignores.getD contract []) overrides'))
    (hother : ∀ name, name ≠ contract → overrides.ignore[name]? = overrides'.ignore[name]?) :
    Adds (if contract ∈ records.plugins ∨ contract ∈ records.ignores then notes else [])
      ((pluginContracts records).foldlM (addOrder records overrides) ∅)
      ((pluginContracts records).foldlM (addOrder records overrides') ∅) := by
  have hstep (orders : Table PluginOrder) (name : String) (_ : name ∈ pluginContracts records) :
      Adds (if name = contract then notes else []) (addOrder records overrides orders name)
        (addOrder records overrides' orders name) := by
    unfold addOrder
    by_cases hname : name = contract
    · subst hname
      rw [if_pos rfl]
      exact hmiss.bind_left _
    · rw [if_neg hname, PluginOrder.resolve_congr (hother name hname)]
      exact .refl _
  have hfold := Adds.foldlM hstep ∅
  rw [flatMap_ite_of_nodup (nodup_pluginContracts records)] at hfold
  simpa only [mem_pluginContracts] using hfold

/-- Service contracts are resolved alike under the same variables. -/
theorem adds_addChoices_of_same
    (h : ∀ name : String, overrides.apply[name]? = overrides'.apply[name]?) :
    Adds [] (records.services.toList.foldlM (addChoice records overrides) ∅)
      (records.services.toList.foldlM (addChoice records overrides') ∅) := by
  refine .foldlM_of_nil (fun choices service => ?_) ∅ _
  unfold addChoice
  rw [ServiceChoice.resolve_congr (h service.1)]
  exact .refl _

/-- Plugin contracts are resolved alike under the same variables. -/
theorem adds_addOrders_of_same
    (h : ∀ name : String, overrides.ignore[name]? = overrides'.ignore[name]?) :
    Adds [] ((pluginContracts records).foldlM (addOrder records overrides) ∅)
      ((pluginContracts records).foldlM (addOrder records overrides') ∅) := by
  refine .foldlM_of_nil (fun orders name => ?_) ∅ _
  unfold addOrder
  rw [PluginOrder.resolve_congr (h name)]
  exact .refl _

/-! ## All together -/

/-- What the contracts of both kinds add is added by all of them. -/
theorem adds_ofRecords {extra extra' : List Note}
    (hservices : Adds extra (records.services.toList.foldlM (addChoice records overrides) ∅)
      (records.services.toList.foldlM (addChoice records overrides') ∅))
    (hplugins : Adds extra' ((pluginContracts records).foldlM (addOrder records overrides) ∅)
      ((pluginContracts records).foldlM (addOrder records overrides') ∅)) (root : String) :
    Adds (extra ++ extra') (ofRecords root records overrides)
      (ofRecords root records overrides') :=
  hservices.bind fun _ _ => (Adds.refl _).bind fun _ _ => hplugins.bind_left _

/-- Where records are read alike, what the resolution adds is all. -/
theorem adds_load {view : View} {extra : List Note}
    (hread : (Records.readAll view overrides (normalizeRoot root)).outcome = .ok records)
    (hreads : Adds [] (Records.readAll view overrides (normalizeRoot root))
      (Records.readAll view overrides' (normalizeRoot root)))
    (hresolves : Adds extra (ofRecords (normalizeRoot root) records overrides)
      (ofRecords (normalizeRoot root) records overrides')) :
    Adds extra (load view root overrides) (load view root overrides') := by
  refine hreads.bind fun records' hread' => ?_
  obtain rfl := Except.ok.inj (hread.symm.trans hread')
  exact hresolves

/-- **An apply variable that misses** adds one warning, if its contract has definitions. -/
theorem adds_load_withApply {view : View} {id : String}
    (hread : (Records.readAll view overrides (normalizeRoot root)).outcome = .ok records)
    (hunset : contract ∉ overrides.apply)
    (hmiss : serviceAt records.services contract (Text.trim id) = none) :
    Adds (if contract ∈ records.services then [ServiceChoice.missedVariable contract id] else [])
      (load view root overrides) (load view root (overrides.withApply contract id)) := by
  have hmore : ∀ name ∈ overrides.apply, name ∈ (overrides.withApply contract id).apply :=
    fun name hname => (Table.mem_insert _ _ _ _).2 (.inr hname)
  have hone (definitions : Table ServiceDefinition)
      (hdefinitions : records.services[contract]? = some definitions) :
      Adds [ServiceChoice.missedVariable contract id]
        (ServiceChoice.resolve contract definitions records.applies[contract]? overrides)
        (ServiceChoice.resolve contract definitions records.applies[contract]?
          (overrides.withApply contract id)) := by
    refine ServiceChoice.adds_resolve_of_missed ?_ ?_ ?_ _
    · exact Std.ExtTreeMap.getElem?_eq_none hunset
    · rw [Overrides.withApply, Table.getElem?_insert, if_pos rfl]
    · rw [serviceAt, Std.ExtTreeMap.getD_eq_getD_getElem?, hdefinitions] at hmiss
      exact hmiss
  have hother (name : String) (hname : name ≠ contract) :
      overrides.apply[name]? = (overrides.withApply contract id).apply[name]? := by
    rw [Overrides.withApply, Table.getElem?_insert, if_neg hname]
  have hexcluded : overrides.excluded = (overrides.withApply contract id).excluded := rfl
  have hresolves := adds_ofRecords (adds_addChoices hone hother)
    (adds_addOrders_of_same fun _ => rfl) (normalizeRoot root)
  rw [List.append_nil] at hresolves
  exact adds_load hread (Records.adds_readAll hexcluded hmore view _) hresolves

/-- **An ignore variable that misses** adds one warning for each item, if its contract has plugins
or ignore rules. -/
theorem adds_load_withIgnore {view : View} {items : String} {ignored : List Implementation}
    (hread : (Records.readAll view overrides (normalizeRoot root)).outcome = .ok records)
    (hunset : contract ∉ overrides.ignore)
    (hparse : List.Forall₂ (fun item i =>
      Implementation.parse item contract (Overrides.ignoreVariable contract) = .ok i)
      (commaItems items) ignored)
    (hmiss : ∀ i ∈ ignored, ∀ d ∈ records.plugins.getD contract [],
      i.selects d.implementation = false) :
    Adds (if contract ∈ records.plugins ∨ contract ∈ records.ignores then
        ignored.map fun i =>
          PluginOrder.missedSelector contract ⟨i, Overrides.ignoreVariable contract⟩
      else [])
      (load view root overrides) (load view root (overrides.withIgnore contract items)) := by
  have hset : (overrides.withIgnore contract items).ignore[contract]? = some items := by
    rw [Overrides.withIgnore, Table.getElem?_insert, if_pos rfl]
  have hother (name : String) (hname : name ≠ contract) :
      overrides.ignore[name]? = (overrides.withIgnore contract items).ignore[name]? := by
    rw [Overrides.withIgnore, Table.getElem?_insert, if_neg hname]
  have hone := PluginOrder.adds_resolve_of_missed (Std.ExtTreeMap.getElem?_eq_none hunset) hset
    hparse hmiss (records.ignores.getD contract [])
  have hreads : Adds [] (Records.readAll view overrides (normalizeRoot root))
      (Records.readAll view (overrides.withIgnore contract items) (normalizeRoot root)) :=
    Records.adds_readAll rfl (fun _ h => h) view _
  have hservices : Adds [] (records.services.toList.foldlM (addChoice records overrides) ∅)
      (records.services.toList.foldlM
        (addChoice records (overrides.withIgnore contract items)) ∅) :=
    adds_addChoices_of_same fun _ => rfl
  exact adds_load hread hreads
    (adds_ofRecords hservices (adds_addOrders hone hother) (normalizeRoot root))

/-- **Variables that miss degrade gracefully.** Where a resolution succeeds, it succeeds with the
same result when an apply variable is set that names no definition, or an ignore variable whose
items can all be read and select no plugin of the contract. At the verbosities that show warnings
there is one more for the id, if the contract has definitions, and one more for each item, if it has
plugins or ignore rules. -/
theorem load_misses (view : View) (root : String) (overrides : Overrides) (resolved : Resolved)
    (hload : (load view root overrides).outcome = .ok resolved) :
    ∃ records,
      (Records.readAll view overrides (normalizeRoot root)).outcome = .ok records ∧
      (∀ contract id, contract ∉ overrides.apply →
        serviceAt records.services contract (Text.trim id) = none →
        (load view root (overrides.withApply contract id)).outcome = .ok resolved ∧
        ∀ v, v ≠ .error → ((load view root (overrides.withApply contract id)).warningsAt v).Perm
          ((load view root overrides).warningsAt v ++
            if contract ∈ records.services then [ServiceChoice.missedVariable contract id]
            else [])) ∧
      ∀ contract items ignored, contract ∉ overrides.ignore →
        List.Forall₂ (fun item i =>
          Implementation.parse item contract (Overrides.ignoreVariable contract) = .ok i)
          (commaItems items) ignored →
        (∀ i ∈ ignored, ∀ d ∈ records.plugins.getD contract [],
          i.selects d.implementation = false) →
        (load view root (overrides.withIgnore contract items)).outcome = .ok resolved ∧
        ∀ v, v ≠ .error → ((load view root (overrides.withIgnore contract items)).warningsAt v).Perm
          ((load view root overrides).warningsAt v ++
            if contract ∈ records.plugins ∨ contract ∈ records.ignores then
              ignored.map fun i =>
                PluginOrder.missedSelector contract ⟨i, Overrides.ignoreVariable contract⟩
            else []) := by
  obtain ⟨records, hread, -⟩ := Report.outcome_bind_eq_ok_iff.1 hload
  refine ⟨records, hread, fun contract id hunset hmiss => ?_,
    fun contract items ignored hunset hparse hmiss => ?_⟩
  · have hadds := adds_load_withApply hread hunset hmiss
    refine ⟨(hadds resolved hload).1, fun v hv =>
      hadds.perm_warningsAt hload (fun note hnote => ?_) hv⟩
    split at hnote
    · obtain rfl := List.mem_singleton.1 hnote
      exact ⟨rfl, rfl⟩
    · cases hnote
  · have hadds := adds_load_withIgnore hread hunset hparse hmiss
    refine ⟨(hadds resolved hload).1, fun v hv =>
      hadds.perm_warningsAt hload (fun note hnote => ?_) hv⟩
    split at hnote
    · obtain ⟨i, -, rfl⟩ := List.mem_map.1 hnote
      exact ⟨rfl, rfl⟩
    · cases hnote

/-- A module with one service and one plugin. -/
def oneOfEach : List Embedded :=
  [⟨"a", "META-INF/spi/service.properties", "c>x>library=s".toUTF8⟩,
    ⟨"a", "META-INF/spi/plugin.properties", "p>1=P".toUTF8⟩]

/-- What the records of the module say of the ids and the plugins that variables name. -/
def namedIn (outcome : Except Error Records) :
    Except Error (Option ServiceDefinition × Bool × List String × Bool) :=
  outcome.map fun records => (serviceAt records.services "c" (Text.trim " z "),
    records.services.contains "c",
    (records.plugins.getD "p" []).map fun d => d.implementation.name, records.plugins.contains "p")

/-- An apply variable and an ignore variable with two items, none of which names anything. -/
theorem load_misses_oneOfEach :
    ∃ resolved, (load (viewOf oneOfEach) "" ⟨∅, ∅, ∅⟩).outcome = .ok resolved ∧
      ((load (viewOf oneOfEach) "" (Overrides.withApply ⟨∅, ∅, ∅⟩ "c" " z ")).outcome =
          .ok resolved ∧
        ((load (viewOf oneOfEach) ""
            (Overrides.withApply ⟨∅, ∅, ∅⟩ "c" " z ")).warningsAt .info).Perm
          ((load (viewOf oneOfEach) "" ⟨∅, ∅, ∅⟩).warningsAt .info ++
            [ServiceChoice.missedVariable "c" " z "])) ∧
      (load (viewOf oneOfEach) "" (Overrides.withIgnore ⟨∅, ∅, ∅⟩ "p" "Q, ,R(P)")).outcome =
          .ok resolved ∧
        ((load (viewOf oneOfEach) ""
            (Overrides.withIgnore ⟨∅, ∅, ∅⟩ "p" "Q, ,R(P)")).warningsAt .debug).Perm
          ((load (viewOf oneOfEach) "" ⟨∅, ∅, ∅⟩).warningsAt .debug ++
            [PluginOrder.missedSelector "p" ⟨⟨"Q", none⟩, Overrides.ignoreVariable "p"⟩,
              PluginOrder.missedSelector "p" ⟨⟨"R", some "P"⟩, Overrides.ignoreVariable "p"⟩]) := by
  have hok : (load (viewOf oneOfEach) "" ⟨∅, ∅, ∅⟩).outcome.toOption.isSome := by decide +kernel
  cases hload : (load (viewOf oneOfEach) "" ⟨∅, ∅, ∅⟩).outcome with
  | error e =>
    rw [hload] at hok
    cases hok
  | ok resolved =>
    obtain ⟨records, hread, happly, hignore⟩ := load_misses _ _ _ _ hload
    have hnamed : namedIn (Records.readAll (viewOf oneOfEach) ⟨∅, ∅, ∅⟩
        (normalizeRoot "")).outcome = .ok (none, true, ["P"], true) := by decide +kernel
    rw [hread] at hnamed
    simp only [namedIn, Except.map, Except.ok.injEq, Prod.mk.injEq] at hnamed
    obtain ⟨hnone, hservice, hnames, hplugin⟩ := hnamed
    have hparse : List.Forall₂ (fun item i =>
        Implementation.parse item "p" (Overrides.ignoreVariable "p") = .ok i)
        (commaItems "Q, ,R(P)") [⟨"Q", none⟩, ⟨"R", some "P"⟩] := by
      rw [show commaItems "Q, ,R(P)" = ["Q", "R(P)"] by decide +kernel]
      exact .cons (by decide +kernel) (.cons (by decide +kernel) .nil)
    have hmiss : ∀ i ∈ [⟨"Q", none⟩, (⟨"R", some "P"⟩ : Implementation)],
        ∀ d ∈ records.plugins.getD "p" [], i.selects d.implementation = false := by
      intro i hi d hd
      have hname : d.implementation.name = "P" := by
        have hmem := List.mem_map_of_mem (f := fun d => d.implementation.name) hd
        rw [hnames] at hmem
        exact List.mem_singleton.1 hmem
      rcases List.mem_pair.1 hi with rfl | rfl <;> simp [Implementation.selects, hname]
    obtain ⟨hsame, hwarnings⟩ := happly "c" " z " (by simp) hnone
    obtain ⟨hsame', hwarnings'⟩ := hignore "p" "Q, ,R(P)" _ (by simp) hparse hmiss
    have hone := hwarnings .info (by decide)
    have htwo := hwarnings' .debug (by decide)
    rw [if_pos (Std.ExtTreeMap.contains_iff_mem.1 hservice)] at hone
    rw [if_pos (.inl (Std.ExtTreeMap.contains_iff_mem.1 hplugin))] at htwo
    exact ⟨resolved, rfl, ⟨hsame, hone⟩, hsame', htwo⟩

end Resolved

end Wiring
