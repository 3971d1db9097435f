import Wiring.Proofs.Records.Family
import Wiring.Proofs.Records.Readable
import Wiring.Proofs.Tables

/-!
# Records · The tables of plugin definitions and of ignore rules

What the reading of plugin definitions and of ignore rules yields. Both families collect lists under
contracts, one item or several for each entry, and none is ever refused for what came before: the
reading succeeds exactly when every entry can be read (`outcome_readPlugins_eq_ok_iff`,
`outcome_readIgnores_eq_ok_iff`), and under a contract stand all its items in the order in which
they were found (`getD_pluginTable`, `getD_groupTable_rules`).
-/

namespace Wiring

/-! ## Plugin definitions -/

/-- The table of definitions, each added to the list of its contract. -/
def pluginTable (ds : List PluginDefinition) : Table (List PluginDefinition) :=
  groupTable (ds.map fun d => (d.contract, [d]))

/-- The table of plugins is made by appending one definition after the other. -/
theorem pluginTable_eq_foldl (ds : List PluginDefinition) :
    pluginTable ds = ds.foldl (fun plugins d => plugins.push (d.contract, [d])) ∅ :=
  List.foldl_map

/-- **Under a contract** stand its definitions, in the order in which they came. -/
theorem getD_pluginTable (ds : List PluginDefinition) (contract : String) :
    (pluginTable ds).getD contract [] = ds.filter (·.contract = contract) := by
  rw [pluginTable, getD_groupTable]
  induction ds with
  | nil => rfl
  | cons d ds ih =>
    rw [List.map_cons, List.filter_cons, List.filter_cons]
    by_cases h : d.contract = contract
    · simp only [h, decide_true, if_true, List.flatMap_cons, ih, List.singleton_append]
    · simp only [h, decide_false, Bool.false_eq_true, if_false, ih]

/-- A contract is listed exactly if a definition is for it. -/
theorem mem_pluginTable {ds : List PluginDefinition} {contract : String} :
    contract ∈ pluginTable ds ↔ ∃ d ∈ ds, d.contract = contract := by
  rw [pluginTable, mem_groupTable]
  simp

/-! ## Ignore rules -/

/-- **Under a contract** stand its rules, in the order in which they came. -/
theorem getD_groupTable_rules {chunks : List (String × List IgnoreRule)}
    (h : ∀ chunk ∈ chunks, ∀ rule ∈ chunk.2, rule.contract = chunk.1) (contract : String) :
    (groupTable chunks).getD contract [] =
      (chunks.flatMap Prod.snd).filter (·.contract = contract) := by
  rw [getD_groupTable]
  induction chunks with
  | nil => rfl
  | cons chunk chunks ih =>
    have hchunk := h chunk (by simp)
    have hrest := ih fun other hother => h other (by simp [hother])
    rw [List.filter_cons, List.flatMap_cons, List.filter_append]
    by_cases hcontract : chunk.1 = contract
    · have hall : chunk.2.filter (·.contract = contract) = chunk.2 := by
        rw [List.filter_eq_self]
        intro rule hrule
        simp [hchunk rule hrule, hcontract]
      simp only [hcontract, decide_true, if_true, List.flatMap_cons, hrest, hall]
    · have hnone : chunk.2.filter (·.contract = contract) = [] := by
        rw [List.filter_eq_nil_iff]
        intro rule hrule
        simp [hchunk rule hrule, hcontract]
      simp only [hcontract, decide_false, Bool.false_eq_true, if_false, hrest, hnone,
        List.nil_append]

namespace Records

/-! ## Reading -/

/-- An entry is added by appending the definition that it holds. -/
theorem outcome_addPlugin (root : String) (plugins : Table (List PluginDefinition))
    (entry : Entry) :
    (addPlugin root plugins entry).outcome =
      (entry.plugin root).mapError .malformed >>=
        fun d => .ok (plugins.push (d.contract, [d])) := by
  rw [addPlugin, Report.outcome_bind_eq, Report.outcome_ofSyntax, ← Entry.plugin]
  congr 1

/-- **Definitions are added** exactly when every entry holds one. -/
theorem outcome_addPlugins_eq_ok_iff {root : String} {entries : List Entry}
    {plugins : Table (List PluginDefinition)} :
    (entries.foldlM (addPlugin root) ∅).outcome = .ok plugins ↔
      ∃ ds, List.Forall₂ (fun entry d => entry.plugin root = .ok d) entries ds ∧
        plugins = pluginTable ds := by
  simp only [Report.outcome_foldlM, outcome_addPlugin]
  rw [foldlM_total_eq_ok_iff]
  simp only [mapError_eq_ok_iff, pluginTable_eq_foldl]

/-- Of the overrides only the excluded resources count for plugin definitions. -/
theorem readPlugins_congr {overrides overrides' : Overrides}
    (h : overrides.excluded = overrides'.excluded) (view : View) (root : String) :
    readPlugins view overrides root = readPlugins view overrides' root := by
  rw [readPlugins, readPlugins, readFamily_congr h]

/-- **Reading the plugin definitions succeeds** exactly when every entry holds one; the result is
the table of the definitions. -/
theorem outcome_readPlugins_eq_ok_iff {view : View} {overrides : Overrides} {root : String}
    {plugins : Table (List PluginDefinition)} :
    (readPlugins view overrides root).outcome = .ok plugins ↔
      ∃ entries ds, HasEntries view overrides root .plugins entries ∧
        List.Forall₂ (fun entry d => entry.plugin root = .ok d) entries ds ∧
        plugins = pluginTable ds := by
  rw [readPlugins, Report.outcome_bind_eq_ok_iff]
  simp only [outcome_readFamily_eq_ok_iff, outcome_addPlugins_eq_ok_iff, exists_and_left]

/-- The items of an entry are read as its rules are. -/
theorem outcome_mapM_readRule (entry : Entry) (items : List String) :
    (items.mapM (readRule (Text.trim entry.key) entry.source)).outcome =
      (items.mapM entry.rule).mapError .malformed := by
  rw [Report.outcome_mapM, mapM_mapError]
  congr 1
  funext item
  rw [readRule, Report.outcome_bind_eq, Report.outcome_ofSyntax, Entry.rule]
  cases Implementation.parse item (Text.trim entry.key) entry.source.text <;> rfl

/-- An entry is added by appending the rules that it holds. -/
theorem outcome_addIgnores (ignores : Table (List IgnoreRule)) (entry : Entry) :
    (addIgnores ignores entry).outcome =
      entry.rules.mapError .malformed >>= fun chunk => .ok (ignores.push chunk) := by
  rw [addIgnores, Report.outcome_bind_eq, Report.outcome_ofSyntax, Entry.rules]
  cases hcontract : ignoreContract entry with
  | error e => rfl
  | ok contract =>
    obtain ⟨-, -, rfl⟩ := ignoreContract_eq_ok_iff.1 hcontract
    show ((commaItems entry.value).mapM (readRule (Text.trim entry.key) entry.source) >>=
      fun rules => (Pure.pure (ignores.push (Text.trim entry.key, rules)) : Report _)).outcome = _
    rw [Report.outcome_bind_eq, outcome_mapM_readRule]
    cases (commaItems entry.value).mapM entry.rule <;> rfl

/-- **Rules are added** exactly when every entry holds some. -/
theorem outcome_addIgnoreRules_eq_ok_iff {entries : List Entry}
    {ignores : Table (List IgnoreRule)} :
    (entries.foldlM addIgnores ∅).outcome = .ok ignores ↔
      ∃ chunks, List.Forall₂ (fun entry chunk => entry.rules = .ok chunk) entries chunks ∧
        ignores = groupTable chunks := by
  simp only [Report.outcome_foldlM, outcome_addIgnores]
  rw [foldlM_total_eq_ok_iff]
  simp only [mapError_eq_ok_iff, groupTable]

/-- Of the overrides only the excluded resources count for ignore rules. -/
theorem readIgnores_congr {overrides overrides' : Overrides}
    (h : overrides.excluded = overrides'.excluded) (view : View) (root : String) :
    readIgnores view overrides root = readIgnores view overrides' root := by
  rw [readIgnores, readIgnores, readFamily_congr h]

/-- **Reading the ignore rules succeeds** exactly when every entry holds rules; the result is the
table of what the entries hold. -/
theorem outcome_readIgnores_eq_ok_iff {view : View} {overrides : Overrides} {root : String}
    {ignores : Table (List IgnoreRule)} :
    (readIgnores view overrides root).outcome = .ok ignores ↔
      ∃ entries chunks, HasEntries view overrides root .ignores entries ∧
        List.Forall₂ (fun entry chunk => entry.rules = .ok chunk) entries chunks ∧
        ignores = groupTable chunks := by
  rw [readIgnores, Report.outcome_bind_eq_ok_iff]
  simp only [outcome_readFamily_eq_ok_iff, outcome_addIgnoreRules_eq_ok_iff, exists_and_left]

end Records

end Wiring
