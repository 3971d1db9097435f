import Wiring.Proofs.Definition.RoundTrip
import Wiring.Proofs.Resolution.Ignored

/-!
# Resolution · Ignoring a plugin by its written form

Whether a plugin can be ignored by the text that its implementation is written as. Both readers of
ignored references take their value apart at the commas before they look for parentheses, so no
reference they read holds a comma (`not_mem_text_of_mem_commaItems`), whereas the argument of a
definition may. Main statement: the written form of a definition, as the whole value of an ignore
entry or of the ignore variable of its contract, stands for that definition's reference exactly
when it holds no comma (`ignored_by_text`). For an entry the contract must also not be empty, since
a plugin entry may leave it blank and an ignore entry may not.
-/

namespace Wiring

/-! ## Items between commas -/

/-- No item of a list holds a comma. -/
theorem not_mem_of_mem_commaItems {text item : String} (h : item ∈ commaItems text) :
    ',' ∉ item.toList := by
  rw [commaItems, List.mem_filter, List.mem_map] at h
  obtain ⟨⟨part, hpart, rfl⟩, -⟩ := h
  obtain ⟨piece, hpiece, rfl⟩ := List.mem_map.1 hpart
  intro hmem
  rw [Text.toList_trim, String.toList_ofList] at hmem
  have hsign := Text.not_mem_of_mem_splitAt hpiece ',' (Text.mem_of_mem_trimChars hmem)
  cases hsign

/-- A trimmed text without commas is the only item. -/
theorem commaItems_eq_singleton {text : String}
    (htrimmed : Text.trimChars text.toList = text.toList) (hne : text.toList ≠ [])
    (hcomma : ',' ∉ text.toList) : commaItems text = [text] := by
  have hpieces : Text.splitAt (· == ',') text.toList = [text.toList] :=
    Text.splitAt_eq_singleton fun c hc => beq_eq_false_iff_ne.2 fun heq => hcomma (heq ▸ hc)
  have htrim : Text.trim text = text := by
    rw [Text.trim, htrimmed, String.ofList_toList]
  have hnonempty : text.isEmpty = false :=
    Bool.eq_false_iff.2 fun hempty => hne (by rw [String.isEmpty_iff.1 hempty]; rfl)
  rw [commaItems, Text.split, hpieces]
  simp [htrim, hnonempty]

/-! ## References between commas -/

namespace Implementation

/-- A reference is written with characters of the text it was read of. -/
theorem mem_of_mem_text {value key origin : String} {i : Implementation}
    (h : parse value key origin = .ok i) {c : Char} (hc : c ∈ i.text.toList) :
    c ∈ value.toList := by
  rw [parse] at h
  refine Text.mem_of_mem_trimChars ?_
  generalize Text.trimChars value.toList = written at h
  cases hsplit : Text.splitOnce '(' written with
  | none =>
    simp only [hsplit] at h
    obtain rfl := Except.ok.inj h
    simpa [text] using hc
  | some parts =>
    obtain ⟨name, rest⟩ := parts
    obtain ⟨rfl, -⟩ := Text.splitOnce_eq_some_iff.1 hsplit
    simp only [hsplit] at h
    cases name with
    | nil => cases h
    | cons first name =>
      dsimp only at h
      split at h
      · next hlast =>
        obtain rfl := Except.ok.inj h
        have hrest : rest.dropLast ++ [')'] = rest := List.dropLast_append_getLast? _ hlast
        rw [toList_text_of_arg, String.toList_ofList, String.toList_ofList, hrest] at hc
        rcases List.mem_append.1 hc with hname | hparenthesis
        · exact List.mem_append_left _ (Text.mem_of_mem_trimChars hname)
        · exact List.mem_append_right _ hparenthesis
      · cases h

/-- **No reference between commas is written with one.** -/
theorem not_mem_text_of_mem_commaItems {text item key origin : String} {i : Implementation}
    (hitem : item ∈ commaItems text) (h : parse item key origin = .ok i) : ',' ∉ i.text.toList :=
  fun hmem => not_mem_of_mem_commaItems hitem (mem_of_mem_text h hmem)

/-- A proper reference is read back, without regard to blank values. -/
theorem Proper.parse_text {i : Implementation} (h : i.Proper) (key origin : String) :
    parse i.text key origin = .ok i := by
  have hvalue := h.ofValue_text key origin
  rw [ofValue] at hvalue
  split at hvalue
  · cases hvalue
  · exact hvalue

/-- A proper reference without a comma is written as one item. -/
theorem Proper.commaItems_text {i : Implementation} (h : i.Proper) (hcomma : ',' ∉ i.text.toList) :
    commaItems i.text = [i.text] :=
  commaItems_eq_singleton h.trimChars_text h.text_ne_nil hcomma

/-- **A written reference is a list of itself** exactly when it holds no comma. -/
theorem Proper.forall₂_parse_iff {i : Implementation} (h : i.Proper) (key origin : String) :
    List.Forall₂ (fun item j => parse item key origin = .ok j) (commaItems i.text) [i] ↔
      ',' ∉ i.text.toList := by
  constructor
  · intro hitems
    obtain ⟨item, items, hparse, -, hsplit⟩ := List.forall₂_cons_right_iff.1 hitems
    exact not_mem_text_of_mem_commaItems (hsplit ▸ List.mem_cons_self) hparse
  · intro hcomma
    rw [h.commaItems_text hcomma]
    exact .cons (h.parse_text key origin) .nil

/-- A reference that selects another one, and its bare name only if that one does, is that one. -/
theorem eq_of_selects {i j : Implementation} (hself : j.selects i = true)
    (hbare : j.selects ⟨i.name, none⟩ = true → i.selects ⟨i.name, none⟩ = true) : j = i := by
  obtain ⟨name, arg⟩ := i
  obtain ⟨name', arg'⟩ := j
  simp only [selects, Bool.and_eq_true, beq_iff_eq, Bool.or_eq_true, Option.isNone_iff_eq_none,
    true_and] at hself hbare
  obtain ⟨rfl, rfl | rfl⟩ := hself
  · obtain rfl | rfl := hbare ⟨rfl, .inl rfl⟩ <;> rfl
  · rfl

end Implementation

/-! ## As an ignore entry -/

/-- The text of a reference as the value of an ignore entry stands for one rule, that of the
reference, exactly when it holds no comma. -/
theorem Entry.rules_of_text_iff {entry : Entry} {i : Implementation} (h : i.Proper)
    (hvalue : entry.value = i.text) :
    entry.rules = .ok (Text.trim entry.key, [⟨Text.trim entry.key, i, entry.source⟩]) ↔
      IsContractKey entry.key ∧ ',' ∉ i.text.toList := by
  have hnonblank : Text.trim i.text ≠ "" := by
    rw [ne_eq, Text.trim_eq_empty_iff, h.trimChars_text]
    exact h.text_ne_nil
  have hrule (item : String) :
      entry.rule item = .ok ⟨Text.trim entry.key, i, entry.source⟩ ↔
        Implementation.parse item (Text.trim entry.key) entry.source.text = .ok i := by
    rw [rule_eq_ok_iff]
    simp
  have hitems : List.Forall₂ (fun item rule => entry.rule item = .ok rule) (commaItems i.text)
      [⟨Text.trim entry.key, i, entry.source⟩] ↔ ',' ∉ i.text.toList := by
    rw [← h.forall₂_parse_iff (Text.trim entry.key) entry.source.text, List.forall₂_cons_right_iff,
      List.forall₂_cons_right_iff]
    simp only [hrule, List.forall₂_nil_right_iff]
  rw [Entry.rules_eq_ok_iff, hvalue, hitems]
  simp [hnonblank]

namespace Records

variable {view : View} {overrides : Overrides} {root : String}

/-- **What one ignore entry holds** shows in all that is read, given what the others hold. -/
theorem outcome_readIgnores_iff_rules {before after : List Entry} {entry : Entry}
    {cs cs' : List (String × List IgnoreRule)} {rules : List IgnoreRule}
    (hentries : HasEntries view overrides root .ignores (before ++ entry :: after))
    (hbefore : List.Forall₂ (fun entry chunk => entry.rules = .ok chunk) before cs)
    (hafter : List.Forall₂ (fun entry chunk => entry.rules = .ok chunk) after cs') :
    (readIgnores view overrides root).outcome =
        .ok (groupTable (cs ++ (Text.trim entry.key, rules) :: cs')) ↔
      entry.rules = .ok (Text.trim entry.key, rules) := by
  have hall {chunk : String × List IgnoreRule} (hchunk : entry.rules = .ok chunk) :
      List.Forall₂ (fun entry chunk => entry.rules = .ok chunk) (before ++ entry :: after)
        (cs ++ chunk :: cs') :=
    List.rel_append hbefore (.cons hchunk hafter)
  rw [outcome_readIgnores_eq_ok_iff]
  constructor
  · rintro ⟨entries, chunks, hentries', hchunks, htable⟩
    obtain rfl := hentries'.unique hentries
    obtain ⟨⟨contract, rules'⟩, -, hrules⟩ :=
      exists_of_mem_forall₂ hchunks.flip (show entry ∈ before ++ entry :: after by simp)
    obtain rfl : chunks = cs ++ (contract, rules') :: cs' :=
      Except.ok.inj ((mapM_eq_ok_iff.2 hchunks).symm.trans (mapM_eq_ok_iff.2 (hall hrules)))
    obtain ⟨-, -, rfl, -⟩ := Entry.rules_eq_ok_iff.1 hrules
    -- what stands under the contract differs at most in the rules of this entry
    have hgroup := congrArg (·.getD (Text.trim entry.key) []) htable
    simp only [getD_groupTable, List.filter_append, List.flatMap_append, List.filter_cons,
      decide_true, if_true, List.flatMap_cons, List.append_cancel_left_eq,
      List.append_cancel_right_eq] at hgroup
    rw [hrules, hgroup]
  · exact fun hrules => ⟨_, _, hentries, hall hrules, rfl⟩

end Records

/-! ## As the ignore variable -/

namespace PluginOrder

/-- Selectors that leave the same of an enabled definition agree on whether it is selected. -/
theorem IsLeftBy.exists_hits_iff {first second : List Selector} {d d' : PluginDefinition}
    (hfirst : IsLeftBy first d d') (hsecond : IsLeftBy second d d') (hd : d.enabled = true) :
    (∃ s ∈ first, s.Hits d = true) ↔ ∃ s ∈ second, s.Hits d = true := by
  have hnone := hfirst.enabled.symm.trans hsecond.enabled
  rw [and_iff_right hd, and_iff_right hd] at hnone
  simpa using not_congr hnone

/-- **The text of a reference as the ignore variable** leaves of all definitions what that reference
alone leaves of them, exactly when it holds no comma. That some of its items are read is not enough:
one that selects as the whole reference does would have to be it. -/
theorem resolve_text_iff {contract : String} {i : Implementation} (h : i.Proper)
    {overrides : Overrides} (hvariable : overrides.ignore[contract]? = some i.text) :
    (∀ definitions rules, ∃ order,
        (resolve contract definitions rules overrides).outcome = .ok order ∧
        IsLeftUnder contract definitions (selectorsOf contract [i] rules) order) ↔
      ',' ∉ i.text.toList := by
  have hitems : variableItems contract overrides = commaItems i.text := by
    rw [variableItems, hvariable]
  constructor
  · intro hall
    -- the reference itself and its bare name tell what selects as the reference does
    let plugin (j : Implementation) : PluginDefinition := ⟨contract, 0, j, "", ⟨""⟩, true, none⟩
    obtain ⟨order, hok, hleft⟩ := hall [plugin i, plugin ⟨i.name, none⟩] []
    obtain ⟨_, hselectors, rfl⟩ := outcome_resolve_eq_ok_iff.1 hok
    obtain ⟨ignored, hignored, rfl⟩ := variableSelectors_eq_ok_iff.1 hselectors
    have hselects (k : Implementation) (hk : plugin k ∈ [plugin i, plugin ⟨i.name, none⟩]) :
        (∃ j ∈ ignored, j.selects k = true) ↔ i.selects k = true := by
      have hboth := (isLeftBy_applyAll (selectorsOf contract ignored []) (plugin k)).exists_hits_iff
        (List.forall₂_same.1 (List.forall₂_map_right_iff.1 hleft.definitions) _ hk) rfl
      simpa [selectorsOf, Selector.Hits, plugin] using hboth
    obtain ⟨j, hj, hself⟩ := (hselects i List.mem_cons_self).2 (by simp [Implementation.selects])
    have hbare : j.selects ⟨i.name, none⟩ = true → i.selects ⟨i.name, none⟩ = true :=
      fun hselect => (hselects ⟨i.name, none⟩ (by simp)).1 ⟨j, hj, hselect⟩
    obtain rfl := Implementation.eq_of_selects hself hbare
    obtain ⟨item, hitem, hparse⟩ := exists_of_mem_forall₂ hignored hj
    exact Implementation.not_mem_text_of_mem_commaItems (hitems ▸ hitem) hparse
  · intro hcomma definitions rules
    have hone := (h.forall₂_parse_iff contract (Overrides.ignoreVariable contract)).2 hcomma
    rw [← hitems] at hone
    exact ⟨_, outcome_resolve_eq_ok_iff.2 ⟨_, variableSelectors_eq_ok_iff.2 ⟨_, hone, rfl⟩, rfl⟩,
      isLeftUnder_ofDefinitions contract definitions _⟩

end PluginOrder

namespace PluginDefinition

open Records PluginOrder

/-! ## Main statement -/

/-- **Ignoring a plugin by its written form.** Take any definition that was read of an entry, and
the text its implementation is written as. As the value of an ignore entry of its contract, the text
is read as one rule, for that implementation, exactly when it holds no comma and the contract is not
empty. As the ignore variable of its contract, it disables what that implementation selects and
nothing else, without fail, exactly when it holds no comma. -/
theorem ignored_by_text {key value root : String} {source : Location}
    {d : PluginDefinition} (h : ofEntry key value root source = .ok d) :
    (∀ view overrides root' before entry after cs cs',
      HasEntries view overrides root' .ignores (before ++ entry :: after) →
      List.Forall₂ (fun entry chunk => entry.rules = .ok chunk) before cs →
      List.Forall₂ (fun entry chunk => entry.rules = .ok chunk) after cs' →
      Text.trim entry.key = d.contract → entry.value = d.implementation.text →
      ((readIgnores view overrides root').outcome = .ok (groupTable
          (cs ++ (d.contract, [⟨d.contract, d.implementation, entry.source⟩]) :: cs')) ↔
        d.contract ≠ "" ∧ ',' ∉ d.implementation.text.toList)) ∧
    ∀ overrides, overrides.ignore[d.contract]? = some d.implementation.text →
      ((∀ definitions rules, ∃ order,
          (resolve d.contract definitions rules overrides).outcome = .ok order ∧
          IsLeftUnder d.contract definitions (selectorsOf d.contract [d.implementation] rules)
            order) ↔
        ',' ∉ d.implementation.text.toList) := by
  have hproper := proper_of_ofEntry h
  refine ⟨?_, fun overrides => resolve_text_iff hproper.implementation⟩
  intro view overrides root' before entry after cs cs' hentries hbefore hafter hkey hvalue
  have hcontract : IsContractKey entry.key ↔ d.contract ≠ "" := by
    rw [IsContractKey, hkey, and_iff_left hproper.contract.closed]
  rw [← hkey, outcome_readIgnores_iff_rules hentries hbefore hafter,
    Entry.rules_of_text_iff hproper.implementation hvalue, hcontract, hkey]

/-! ## An argument with and one without a comma -/

/-- A plugin with an argument. -/
def taggedPlugin (arg : String) : PluginDefinition :=
  ⟨"demo.Filter", 1, ⟨"demo.Tagged", some arg⟩, "META-INF/spi/",
    ⟨"embedded:a/META-INF/spi/plugin.properties"⟩, true, none⟩

/-- A module that ignores that plugin by its written form. -/
def taggedModule (arg : String) : List Enumerator.Embedded :=
  [⟨"a", "META-INF/spi/plugin-ignore.properties",
    s!"demo.Filter={(taggedPlugin arg).implementation.text}".toUTF8⟩]

/-- Overrides that ignore that plugin by its written form. -/
def taggedOverrides (arg : String) : Overrides :=
  ⟨∅, Table.ofPairs [("demo.Filter", (taggedPlugin arg).implementation.text)], ∅⟩

/-- Parentheses and blanks in an argument do no harm. -/
theorem ignored_by_text_parentheses :
    ofEntry "demo.Filter>1" " demo.Tagged ( a (b) ) " "META-INF/spi/"
        ⟨"embedded:a/META-INF/spi/plugin.properties"⟩ = .ok (taggedPlugin " a (b) ") ∧
      (readIgnores (Enumerator.viewOf (taggedModule " a (b) ")) ⟨∅, ∅, ∅⟩ "META-INF/spi/").outcome =
        .ok (groupTable [("demo.Filter", [⟨"demo.Filter", ⟨"demo.Tagged", some " a (b) "⟩,
          ⟨"embedded:a/META-INF/spi/plugin-ignore.properties"⟩⟩])]) ∧
      ∀ definitions rules, ∃ order,
        (resolve "demo.Filter" definitions rules (taggedOverrides " a (b) ")).outcome = .ok order ∧
        IsLeftUnder "demo.Filter" definitions
          (selectorsOf "demo.Filter" [⟨"demo.Tagged", some " a (b) "⟩] rules) order := by
  have hread : ofEntry "demo.Filter>1" " demo.Tagged ( a (b) ) " "META-INF/spi/"
      ⟨"embedded:a/META-INF/spi/plugin.properties"⟩ = .ok (taggedPlugin " a (b) ") := by
    decide +kernel
  obtain ⟨hentry, hvariable⟩ := ignored_by_text hread
  have hentries : HasEntries (Enumerator.viewOf (taggedModule " a (b) ")) ⟨∅, ∅, ∅⟩ "META-INF/spi/"
      .ignores [⟨"demo.Filter", "demo.Tagged( a (b) )",
        ⟨"embedded:a/META-INF/spi/plugin-ignore.properties"⟩⟩] :=
    outcome_readFamily_eq_ok_iff.1 (by decide +kernel)
  exact ⟨hread,
    (hentry _ _ _ [] _ [] [] [] hentries .nil .nil (by decide) (by decide)).2
      ⟨by decide, by decide⟩,
    (hvariable _ (by decide +kernel)).2 (by decide)⟩

/-- **An argument with a comma** keeps a plugin from being ignored by its written form: the text
that its definition was read of is refused as the value of an ignore entry and as ignore variable,
for a parenthesis that is said to be left open. -/
theorem comma_not_ignored :
    ofEntry "demo.Filter>1" "demo.Tagged(a, b)" "META-INF/spi/"
        ⟨"embedded:a/META-INF/spi/plugin.properties"⟩ = .ok (taggedPlugin "a, b") ∧
      (readIgnores (Enumerator.viewOf (taggedModule "a, b")) ⟨∅, ∅, ∅⟩ "META-INF/spi/").outcome =
        .error (.malformed (.unterminatedArgument "demo.Filter"
          "embedded:a/META-INF/spi/plugin-ignore.properties")) ∧
      (resolve "demo.Filter" [taggedPlugin "a, b"] [] (taggedOverrides "a, b")).outcome =
        .error (.malformed
          (.unterminatedArgument "demo.Filter" "settings:ignore.demo.Filter")) := by
  refine ⟨by decide +kernel, ?_, by decide +kernel⟩
  have hfamily : (readFamily (Enumerator.viewOf (taggedModule "a, b")) ⟨∅, ∅, ∅⟩ "META-INF/spi/"
      .ignores).outcome = .ok [⟨"demo.Filter", "demo.Tagged(a, b)",
        ⟨"embedded:a/META-INF/spi/plugin-ignore.properties"⟩⟩] := by decide +kernel
  have hcontract : ignoreContract ⟨"demo.Filter", "demo.Tagged(a, b)",
      ⟨"embedded:a/META-INF/spi/plugin-ignore.properties"⟩⟩ = .ok "demo.Filter" :=
    ignoreContract_eq_ok_iff.2 ⟨⟨by decide, by decide⟩, by decide, by decide⟩
  rw [readIgnores, Report.outcome_bind_eq, hfamily]
  show (List.foldlM addIgnores ∅ [_]).outcome = _
  rw [List.foldlM_cons, Report.outcome_bind_eq, outcome_addIgnores, Entry.rules, hcontract]
  rfl

end PluginDefinition

end Wiring
