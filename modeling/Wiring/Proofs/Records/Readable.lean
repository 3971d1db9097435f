import Wiring.Proofs.Steps
import Wiring.Proofs.Text.Trim
import Wiring.Records.Read

/-!
# Records · Which entries can be read

The shape of an entry of each family, said of its key and its value alone: `IsServiceEntry`,
`IsApplyEntry`, `IsPluginEntry` and `IsIgnoreEntry`. An entry of the shape of its family is read,
and no other one (`Entry.exists_service_iff` and its companions); the record that comes out has the
contract and the id that the key names (`serviceName?`, `Text.trim key`).
-/

namespace Wiring

/-! ## Implementation references -/

/-- Whether a text is a written reference: it is not blank, and if it has an opening parenthesis, it
does not begin with one and ends in a closing one. Blanks around the text do not count. -/
def Implementation.IsWritten (value : String) : Prop :=
  Text.trimChars value.toList ≠ [] ∧
    ('(' ∈ Text.trimChars value.toList →
      (Text.trimChars value.toList).head? ≠ some '(' ∧
        (Text.trimChars value.toList).getLast? = some ')')

namespace Implementation

/-- A reference can be read where an opening parenthesis is neither first nor left open. -/
theorem exists_parse_iff {value key origin : String} :
    (∃ i, parse value key origin = .ok i) ↔
      ('(' ∈ Text.trimChars value.toList →
        (Text.trimChars value.toList).head? ≠ some '(' ∧
          (Text.trimChars value.toList).getLast? = some ')') := by
  rw [parse]
  generalize Text.trimChars value.toList = written
  cases hsplit : Text.splitOnce '(' written with
  | none =>
    rw [Text.splitOnce_eq_none_iff] at hsplit
    simp [hsplit]
  | some parts =>
    obtain ⟨name, rest⟩ := parts
    obtain ⟨rfl, -⟩ := Text.splitOnce_eq_some_iff.1 hsplit
    have hlast : (name ++ '(' :: rest).getLast? = some ')' ↔ rest.getLast? = some ')' := by
      cases rest with
      | nil => simp
      | cons c rest => simp
    have hmem : '(' ∈ name ++ '(' :: rest := by simp
    rw [hlast]
    cases name with
    | nil => simp
    | cons c name =>
      have hne : c ≠ '(' := fun h =>
        (Text.splitOnce_eq_some_iff.1 hsplit).2 (by simp [h])
      by_cases hclosed : rest.getLast? = some ')'
      · simp [hclosed, hne]
      · simp [hclosed]

/-- The value of an entry can be read exactly when it is a written reference. -/
theorem exists_ofValue_iff {value key resource : String} :
    (∃ i, ofValue value key resource = .ok i) ↔ IsWritten value := by
  rw [ofValue, IsWritten]
  by_cases hblank : Text.trimChars value.toList = []
  · simp [Text.isBlankText_iff.2 hblank, hblank]
  · have hfalse : Text.isBlankText value = false :=
      Bool.eq_false_iff.2 fun h => hblank (Text.isBlankText_iff.1 h)
    simp only [hfalse, Bool.false_eq_true, if_false, exists_parse_iff]
    exact ⟨fun h => ⟨hblank, h⟩, And.right⟩

end Implementation

/-! ## Keys -/

/-- The contract and the id that a service key names. -/
def serviceName? (key : String) : Option (String × String) :=
  match keyParts key with
  | [contract, id, _] => some (Text.trim contract, Text.trim id)
  | _ => none

/-- The contract and the priority that a plugin key names. -/
def pluginName? (key : String) : Option (String × Int) :=
  match keyParts key with
  | [contract, priority] =>
    (readPriority? (Text.trim priority)).map fun n => (Text.trim contract, n)
  | _ => none

/-- A plugin key has two parts, of which the second is read as a priority. -/
theorem pluginName?_eq_some_iff {key contract : String} {priority : Int} :
    pluginName? key = some (contract, priority) ↔
      ∃ first second, keyParts key = [first, second] ∧
        readPriority? (Text.trim second) = some priority ∧ contract = Text.trim first := by
  unfold pluginName?
  constructor
  · intro h
    split at h
    · rename_i first second hparts
      obtain ⟨n, hn, hpair⟩ := Option.map_eq_some_iff.1 h
      obtain ⟨rfl, rfl⟩ := Prod.mk.inj hpair
      exact ⟨first, second, hparts, hn, rfl⟩
    · cases h
  · rintro ⟨first, second, hparts, hn, rfl⟩
    simp only [hparts, hn, Option.map_some]

/-- Whether a key names a contract and nothing else. -/
def IsContractKey (key : String) : Prop :=
  Text.trim key ≠ "" ∧ '>' ∉ (Text.trim key).toList

/-! ## Shapes -/

namespace Entry

/-- The shape of a service definition: the key has three parts, the third one names a level, and the
value is a written reference. -/
def IsServiceEntry (entry : Entry) : Prop :=
  (∃ contract id level, keyParts entry.key = [contract, id, level] ∧
    (Level.ofName? (Text.trim level)).isSome) ∧
  Implementation.IsWritten entry.value

/-- The shape of an apply record: the key names a contract and the value is not blank. -/
def IsApplyEntry (entry : Entry) : Prop :=
  IsContractKey entry.key ∧ Text.trim entry.value ≠ ""

/-- The shape of a plugin definition: the key has two parts, the second one is a priority, and the
value is a written reference. -/
def IsPluginEntry (entry : Entry) : Prop :=
  (pluginName? entry.key).isSome ∧ Implementation.IsWritten entry.value

/-- The shape of ignore rules: the key names a contract, the value is not blank, and each item
between its commas is a written reference. -/
def IsIgnoreEntry (entry : Entry) : Prop :=
  IsContractKey entry.key ∧ Text.trim entry.value ≠ "" ∧
    ∀ item ∈ commaItems entry.value, Implementation.IsWritten item

end Entry

/-! ## Service definitions -/

/-- The definition that an entry holds. -/
def Entry.service (root : String) (entry : Entry) : Except SyntaxError ServiceDefinition :=
  ServiceDefinition.ofEntry entry.key entry.value root entry.source

/-- **What is read of a service entry**: the three parts of its key and the reference that is its
value. -/
theorem Entry.service_eq_ok_iff {root : String} {entry : Entry} {d : ServiceDefinition} :
    entry.service root = .ok d ↔
      ∃ contract id level rank i, keyParts entry.key = [contract, id, level] ∧
        Level.ofName? (Text.trim level) = some rank ∧
        Implementation.ofValue entry.value (Text.trim entry.key) entry.source.text = .ok i ∧
        d = ⟨Text.trim contract, Text.trim id, rank, i, root, entry.source⟩ := by
  rw [Entry.service, ServiceDefinition.ofEntry]
  constructor
  · intro h
    split at h
    · rename_i contract id level hparts
      split at h
      · cases h
      · rename_i rank hrank
        obtain ⟨i, hi, h⟩ := bind_eq_ok_iff.1 h
        exact ⟨contract, id, level, rank, i, hparts, hrank, hi, (Except.ok.inj h).symm⟩
    · cases h
  · rintro ⟨contract, id, level, rank, i, hparts, hrank, hi, rfl⟩
    simp only [hparts, hrank, hi]
    rfl

/-- A service definition bears the name that its key gives. -/
theorem Entry.serviceName?_of_service {root : String} {entry : Entry} {d : ServiceDefinition}
    (h : entry.service root = .ok d) : serviceName? entry.key = some (d.contract, d.id) := by
  obtain ⟨contract, id, level, rank, i, hparts, -, -, rfl⟩ := service_eq_ok_iff.1 h
  rw [serviceName?, hparts]

/-- **An entry holds a service definition** exactly when it has the shape of one. -/
theorem Entry.exists_service_iff {root : String} {entry : Entry} :
    (∃ d, entry.service root = .ok d) ↔ entry.IsServiceEntry := by
  constructor
  · rintro ⟨d, h⟩
    obtain ⟨contract, id, level, rank, i, hparts, hrank, hi, -⟩ := service_eq_ok_iff.1 h
    refine ⟨⟨contract, id, level, hparts, by simp [hrank]⟩, ?_⟩
    exact Implementation.exists_ofValue_iff.1 ⟨i, hi⟩
  · rintro ⟨⟨contract, id, level, hparts, hlevel⟩, hvalue⟩
    obtain ⟨rank, hrank⟩ := Option.isSome_iff_exists.1 hlevel
    obtain ⟨i, hi⟩ := Implementation.exists_ofValue_iff.2 hvalue
    exact ⟨_, service_eq_ok_iff.2 ⟨contract, id, level, rank, i, hparts, hrank, hi, rfl⟩⟩

/-! ## Plugin definitions -/

/-- The definition that an entry holds. -/
def Entry.plugin (root : String) (entry : Entry) : Except SyntaxError PluginDefinition :=
  PluginDefinition.ofEntry entry.key entry.value root entry.source

/-- **What is read of a plugin entry**: the two parts of its key and the reference that is its
value. -/
theorem Entry.plugin_eq_ok_iff {root : String} {entry : Entry} {d : PluginDefinition} :
    entry.plugin root = .ok d ↔
      ∃ contract priority i, pluginName? entry.key = some (contract, priority) ∧
        Implementation.ofValue entry.value (Text.trim entry.key) entry.source.text = .ok i ∧
        d = ⟨contract, priority, i, root, entry.source, true, none⟩ := by
  rw [Entry.plugin, PluginDefinition.ofEntry]
  constructor
  · intro h
    split at h
    · rename_i contract priority hparts
      split at h
      · cases h
      · rename_i n hn
        obtain ⟨i, hi, h⟩ := bind_eq_ok_iff.1 h
        have hname := pluginName?_eq_some_iff.2 ⟨contract, priority, hparts, hn, rfl⟩
        exact ⟨Text.trim contract, n, i, hname, hi, (Except.ok.inj h).symm⟩
    · cases h
  · rintro ⟨contract, priority, i, hname, hi, rfl⟩
    obtain ⟨first, second, hparts, hn, rfl⟩ := pluginName?_eq_some_iff.1 hname
    simp only [hparts, hn, hi]
    rfl

/-- A plugin definition is of the contract and the priority that its key names. -/
theorem Entry.pluginName?_of_plugin {root : String} {entry : Entry} {d : PluginDefinition}
    (h : entry.plugin root = .ok d) : pluginName? entry.key = some (d.contract, d.priority) := by
  obtain ⟨contract, priority, i, hname, -, rfl⟩ := plugin_eq_ok_iff.1 h
  exact hname

/-- **An entry holds a plugin definition** exactly when it has the shape of one. -/
theorem Entry.exists_plugin_iff {root : String} {entry : Entry} :
    (∃ d, entry.plugin root = .ok d) ↔ entry.IsPluginEntry := by
  constructor
  · rintro ⟨d, h⟩
    obtain ⟨contract, priority, i, hname, hi, -⟩ := plugin_eq_ok_iff.1 h
    exact ⟨by simp [hname], Implementation.exists_ofValue_iff.1 ⟨i, hi⟩⟩
  · rintro ⟨hname, hvalue⟩
    obtain ⟨⟨contract, priority⟩, hname⟩ := Option.isSome_iff_exists.1 hname
    obtain ⟨i, hi⟩ := Implementation.exists_ofValue_iff.2 hvalue
    exact ⟨_, plugin_eq_ok_iff.2 ⟨contract, priority, i, hname, hi, rfl⟩⟩

/-! ## Apply records -/

namespace Records

/-- A key that is a contract gives it without the blanks around it. -/
theorem contractOfKey_eq_ok_iff {key contract : String} {source : Location} :
    contractOfKey key source = .ok contract ↔ IsContractKey key ∧ contract = Text.trim key := by
  have hcond : ((Text.trim key).isEmpty || (Text.trim key).contains '>') = true ↔
      ¬IsContractKey key := by
    simp [IsContractKey, String.isEmpty_iff, imp_iff_not_or]
  rw [contractOfKey]
  by_cases h : IsContractKey key
  · have hfalse : ¬((Text.trim key).isEmpty || (Text.trim key).contains '>') = true :=
      fun htrue => hcond.1 htrue h
    rw [if_neg hfalse, Except.ok.injEq, and_iff_right h, eq_comm]
  · simp only [hcond.2 h, if_true, h, false_and, reduceCtorEq]

/-- **What is read of an apply entry.** -/
theorem applyOfEntry_eq_ok_iff {entry : Entry} {record : ApplyRecord} :
    applyOfEntry entry = .ok record ↔ entry.IsApplyEntry ∧
      record = ⟨Text.trim entry.key, Text.trim entry.value, entry.source, none⟩ := by
  rw [applyOfEntry, bind_eq_ok_iff, Entry.IsApplyEntry]
  constructor
  · rintro ⟨contract, hcontract, h⟩
    obtain ⟨hkey, rfl⟩ := contractOfKey_eq_ok_iff.1 hcontract
    by_cases hvalue : (Text.trim entry.value).isEmpty = true
    · simp [hvalue, Bind.bind, Except.bind] at h
    · simp only [hvalue, Bool.false_eq_true, if_false] at h
      exact ⟨⟨hkey, fun hempty => hvalue (String.isEmpty_iff.2 hempty)⟩, (Except.ok.inj h).symm⟩
  · rintro ⟨⟨hkey, hvalue⟩, rfl⟩
    refine ⟨_, contractOfKey_eq_ok_iff.2 ⟨hkey, rfl⟩, ?_⟩
    have hfalse : ¬(Text.trim entry.value).isEmpty = true :=
      fun hempty => hvalue (String.isEmpty_iff.1 hempty)
    simp only [hfalse, Bool.false_eq_true, if_false]
    rfl

/-! ## Ignore rules -/

/-- An ignore entry has a contract as its key, and a value that is not blank. -/
theorem ignoreContract_eq_ok_iff {entry : Entry} {contract : String} :
    ignoreContract entry = .ok contract ↔
      IsContractKey entry.key ∧ Text.trim entry.value ≠ "" ∧ contract = Text.trim entry.key := by
  have hblank : Text.isBlankText entry.value = true ↔ Text.trim entry.value = "" := by
    rw [Text.isBlankText_iff, Text.trim_eq_empty_iff]
  rw [ignoreContract, bind_eq_ok_iff]
  constructor
  · rintro ⟨contract', hcontract, h⟩
    obtain ⟨hkey, rfl⟩ := contractOfKey_eq_ok_iff.1 hcontract
    by_cases hvalue : Text.isBlankText entry.value = true
    · simp [hvalue, Bind.bind, Except.bind] at h
    · simp only [hvalue, Bool.false_eq_true, if_false] at h
      exact ⟨hkey, fun hempty => hvalue (hblank.2 hempty), (Except.ok.inj h).symm⟩
  · rintro ⟨hkey, hvalue, rfl⟩
    refine ⟨_, contractOfKey_eq_ok_iff.2 ⟨hkey, rfl⟩, ?_⟩
    have hfalse : ¬Text.isBlankText entry.value = true := fun h => hvalue (hblank.1 h)
    simp only [hfalse, Bool.false_eq_true, if_false]
    rfl

end Records

/-- The rule that an item of an ignore entry holds. -/
def Entry.rule (entry : Entry) (item : String) : Except SyntaxError IgnoreRule :=
  (Implementation.parse item (Text.trim entry.key) entry.source.text).map fun ignored =>
    ⟨Text.trim entry.key, ignored, entry.source⟩

/-- **What is read of an item**: the rule for the reference that it is. -/
theorem Entry.rule_eq_ok_iff {entry : Entry} {item : String} {rule : IgnoreRule} :
    entry.rule item = .ok rule ↔ ∃ ignored,
      Implementation.parse item (Text.trim entry.key) entry.source.text = .ok ignored ∧
        rule = ⟨Text.trim entry.key, ignored, entry.source⟩ :=
  map_eq_ok_iff

/-- A rule bears the contract of its entry. -/
theorem Entry.contract_of_rule {entry : Entry} {item : String} {rule : IgnoreRule}
    (h : entry.rule item = .ok rule) : rule.contract = Text.trim entry.key := by
  obtain ⟨ignored, -, rfl⟩ := rule_eq_ok_iff.1 h
  rfl

/-- The contract of an ignore entry and the rules that its items hold, in order. -/
def Entry.rules (entry : Entry) : Except SyntaxError (String × List IgnoreRule) := do
  let contract ← Records.ignoreContract entry
  let rules ← (commaItems entry.value).mapM entry.rule
  return (contract, rules)

/-- **What is read of an ignore entry**: one rule for each item, in order. -/
theorem Entry.rules_eq_ok_iff {entry : Entry} {contract : String} {rules : List IgnoreRule} :
    entry.rules = .ok (contract, rules) ↔
      IsContractKey entry.key ∧ Text.trim entry.value ≠ "" ∧ contract = Text.trim entry.key ∧
        List.Forall₂ (fun item rule => entry.rule item = .ok rule) (commaItems entry.value)
          rules := by
  rw [Entry.rules, bind_eq_ok_iff]
  constructor
  · rintro ⟨contract', hcontract, h⟩
    obtain ⟨rules', hrules, h⟩ := bind_eq_ok_iff.1 h
    obtain ⟨rfl, rfl⟩ := Prod.mk.inj (Except.ok.inj h)
    obtain ⟨hkey, hvalue, rfl⟩ := Records.ignoreContract_eq_ok_iff.1 hcontract
    exact ⟨hkey, hvalue, rfl, mapM_eq_ok_iff.1 hrules⟩
  · rintro ⟨hkey, hvalue, rfl, hrules⟩
    refine ⟨_, Records.ignoreContract_eq_ok_iff.2 ⟨hkey, hvalue, rfl⟩, ?_⟩
    exact bind_eq_ok_iff.2 ⟨rules, mapM_eq_ok_iff.2 hrules, rfl⟩

/-- No item between commas is blank. -/
theorem trimChars_ne_nil_of_mem_commaItems {text item : String} (h : item ∈ commaItems text) :
    Text.trimChars item.toList ≠ [] := by
  rw [commaItems, List.mem_filter, List.mem_map] at h
  obtain ⟨⟨piece, -, rfl⟩, hnonempty⟩ := h
  intro hnil
  have hempty := Text.trim_eq_empty_iff.2 hnil
  rw [Text.trim_trim] at hempty
  simp [hempty] at hnonempty

/-- **An entry holds ignore rules** exactly when it has the shape of such an entry. -/
theorem Entry.exists_rules_iff {entry : Entry} :
    (∃ chunk, entry.rules = .ok chunk) ↔ entry.IsIgnoreEntry := by
  have hitem (item : String) : (∃ rule, entry.rule item = .ok rule) ↔
      ∃ i, Implementation.parse item (Text.trim entry.key) entry.source.text = .ok i :=
    exists_map_eq_ok_iff
  have hitems : (∃ rules, List.Forall₂ (fun item rule => entry.rule item = .ok rule)
      (commaItems entry.value) rules) ↔
        ∀ item ∈ commaItems entry.value, Implementation.IsWritten item := by
    rw [exists_forall₂_iff]
    refine forall₂_congr fun item hmem => ?_
    rw [hitem, Implementation.exists_parse_iff, Implementation.IsWritten]
    simp [trimChars_ne_nil_of_mem_commaItems hmem]
  rw [Entry.IsIgnoreEntry, ← hitems]
  constructor
  · rintro ⟨⟨contract, rules⟩, h⟩
    obtain ⟨hkey, hvalue, -, hrules⟩ := rules_eq_ok_iff.1 h
    exact ⟨hkey, hvalue, rules, hrules⟩
  · rintro ⟨hkey, hvalue, rules, hrules⟩
    exact ⟨_, rules_eq_ok_iff.2 ⟨hkey, hvalue, rfl, hrules⟩⟩

end Wiring
