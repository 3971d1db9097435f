import Wiring.Proofs.Properties.RoundTrip
import Wiring.Proofs.Records.Readable
import Wiring.Proofs.Text.Integer

/-!
# Definition · Reading what was written

A definition that was read from an entry can be written as one and read back. What makes this so is
the shape of what is read: names are trimmed and hold no sign that ends them
(`Implementation.Proper`, `ServiceDefinition.Proper`, `PluginDefinition.Proper`). Main statements:
what is read is proper (`proper_of_ofEntry`), and a proper definition is read back from the entry
that it is written to, with its own root and at any place (`ofEntry_toEntry`). The key of such an
entry does not begin with a blank, so it survives being written as text
(`Properties.parse_toText_singleton`).
-/

namespace Wiring

/-! ## Implementation references -/

namespace Implementation

/-- Whether a reference can have been read: its name is trimmed, not empty, and holds no opening
parenthesis. Anything may stand in the argument. -/
structure Proper (i : Implementation) : Prop where
  /-- The name is trimmed. -/
  trimmed : Text.trimChars i.name.toList = i.name.toList
  /-- The name is not empty. -/
  nonempty : i.name.toList ≠ []
  /-- The name ends at the first opening parenthesis. -/
  closed : '(' ∉ i.name.toList

/-- What is read from a text that is not blank is proper. -/
theorem proper_of_parse {value key origin : String} {i : Implementation}
    (hvalue : Text.trimChars value.toList ≠ []) (h : parse value key origin = .ok i) :
    i.Proper := by
  rw [parse] at h
  have htrimmed := Text.trimChars_trimChars value.toList
  generalize Text.trimChars value.toList = written at h hvalue htrimmed
  cases hsplit : Text.splitOnce '(' written with
  | none =>
    simp only [hsplit] at h
    obtain rfl := Except.ok.inj h
    exact ⟨by simpa using htrimmed, by simpa using hvalue,
      by simpa using Text.splitOnce_eq_none_iff.1 hsplit⟩
  | some parts =>
    obtain ⟨name, rest⟩ := parts
    obtain ⟨rfl, hname⟩ := Text.splitOnce_eq_some_iff.1 hsplit
    simp only [hsplit] at h
    cases name with
    | nil => cases h
    | cons c name =>
      dsimp only at h
      split at h
      · obtain rfl := Except.ok.inj h
        refine ⟨by simp, ?_, ?_⟩
        · -- the name begins as the trimmed text does, so it is not blank
          have hfirst := (Text.trimChars_eq_self_iff.1 htrimmed).1 c (by simp)
          intro hnil
          rw [String.toList_ofList, Text.trimChars_eq_nil_iff] at hnil
          simp [hfirst] at hnil
        · rw [String.toList_ofList]
          exact fun hmem => hname (Text.mem_of_mem_trimChars hmem)
      · cases h

/-- What is read from the value of an entry is proper. -/
theorem proper_of_ofValue {value key resource : String} {i : Implementation}
    (h : ofValue value key resource = .ok i) : i.Proper := by
  rw [ofValue] at h
  split at h
  · cases h
  · next hblank => exact proper_of_parse (fun hnil => hblank (Text.isBlankText_iff.2 hnil)) h

/-- The written form of a reference with an argument. -/
theorem toList_text_of_arg (name arg : String) :
    (text ⟨name, some arg⟩).toList = name.toList ++ '(' :: (arg.toList ++ [')']) := by
  simp [text, toString]

/-- The written form of a proper reference is trimmed. -/
theorem Proper.trimChars_text {i : Implementation} (h : i.Proper) :
    Text.trimChars i.text.toList = i.text.toList := by
  obtain ⟨name, arg⟩ := i
  cases arg with
  | none => exact h.trimmed
  | some arg =>
    rw [toList_text_of_arg]
    refine Text.trimChars_append_cons (Text.trimChars_eq_self_iff.1 h.trimmed).1 (by decide) ?_
    intro c hc
    obtain rfl : ')' = c := by simpa using hc
    decide

/-- A proper reference is never written as an empty text. -/
theorem Proper.text_ne_nil {i : Implementation} (h : i.Proper) : i.text.toList ≠ [] := by
  obtain ⟨name, arg⟩ := i
  cases arg with
  | none => exact h.nonempty
  | some arg =>
    rw [toList_text_of_arg]
    exact List.append_ne_nil_of_right_ne_nil _ (List.cons_ne_nil _ _)

/-- **A proper reference is read back** from its written form. -/
theorem Proper.ofValue_text {i : Implementation} (h : i.Proper) (key resource : String) :
    ofValue i.text key resource = .ok i := by
  have hblank : Text.isBlankText i.text = false := by
    refine Bool.eq_false_iff.2 fun hblank => h.text_ne_nil ?_
    rw [← h.trimChars_text, Text.isBlankText_iff.1 hblank]
  rw [ofValue, hblank, if_neg Bool.false_ne_true, parse, h.trimChars_text]
  obtain ⟨name, arg⟩ := i
  cases arg with
  | none =>
    have hsplit : Text.splitOnce '(' (text ⟨name, none⟩).toList = none :=
      Text.splitOnce_eq_none_iff.2 h.closed
    simp only [hsplit]
    simp only [text, String.ofList_toList]
  | some arg =>
    have hsplit : Text.splitOnce '(' (text ⟨name, some arg⟩).toList =
        some (name.toList, arg.toList ++ [')']) :=
      Text.splitOnce_eq_some_iff.2 ⟨toList_text_of_arg name arg, h.closed⟩
    simp only [hsplit]
    split
    · next hnone => cases hnone
    · next hnil =>
      obtain ⟨hname, -⟩ := Prod.mk.inj (Option.some.inj hnil)
      exact absurd hname h.nonempty
    · next hparts =>
      obtain ⟨rfl, rfl⟩ := Prod.mk.inj (Option.some.inj hparts)
      rw [if_pos (by simp), h.trimmed]
      simp

end Implementation

/-! ## Keys -/

/-- Whether a part of a key can have been read: it is trimmed and holds no sign between parts. -/
structure IsKeyPart (part : String) : Prop where
  /-- The part is trimmed. -/
  trimmed : Text.trimChars part.toList = part.toList
  /-- The part ends at the sign. -/
  closed : '>' ∉ part.toList

/-- What is read of a key are such parts. -/
theorem isKeyPart_trim {key part : String} {parts : List String} (hparts : keyParts key = parts)
    (h : part ∈ parts) : IsKeyPart (Text.trim part) := by
  subst hparts
  obtain ⟨piece, hpiece, rfl⟩ := List.mem_map.1 h
  refine ⟨by simp, fun hmem => ?_⟩
  rw [Text.toList_trim, String.toList_ofList] at hmem
  have hsign := Text.not_mem_of_mem_splitAt hpiece '>' (Text.mem_of_mem_trimChars hmem)
  cases hsign

/-- There is nothing to trim at a part of a key. -/
theorem IsKeyPart.trim_eq {part : String} (h : IsKeyPart part) : Text.trim part = part := by
  rw [Text.trim, h.trimmed, String.ofList_toList]

/-- A part of a key does not begin with a blank. -/
theorem IsKeyPart.head {part : String} (h : IsKeyPart part) :
    ∀ c ∈ part.toList.head?, Text.isBlank c = false :=
  (Text.trimChars_eq_self_iff.1 h.trimmed).1

/-- The text of a key: its parts with a sign between them. -/
def keyText (parts : List String) : List Char :=
  ['>'].intercalate (parts.map String.toList)

/-- A key of one part is that part. -/
theorem keyText_singleton (part : String) : keyText [part] = part.toList := by
  simp [keyText, List.intercalate]

/-- The first part of a key stands in front of the first separator. -/
theorem keyText_cons_cons (first second : String) (rest : List String) :
    keyText (first :: second :: rest) = first.toList ++ '>' :: keyText (second :: rest) :=
  Text.intercalate_cons_cons '>' _ _ _

/-- What is written of parts is trimmed. -/
theorem trimChars_keyText {parts : List String} (h : ∀ part ∈ parts, IsKeyPart part) :
    Text.trimChars (keyText parts) = keyText parts := by
  induction parts with
  | nil => rfl
  | cons first parts ih =>
    have hrest := ih fun part hpart => h part (by simp [hpart])
    cases parts with
    | nil =>
      rw [keyText_singleton]
      exact (h first (by simp)).trimmed
    | cons second rest =>
      rw [keyText_cons_cons]
      exact Text.trimChars_append_cons (h first (by simp)).head (by decide)
        (Text.trimChars_eq_self_iff.1 hrest).2

/-- **A key is taken apart** into the parts it was written of. -/
theorem keyParts_of_keyText {parts : List String} (hne : parts ≠ [])
    (h : ∀ part ∈ parts, IsKeyPart part) {key : String} (hkey : key.toList = keyText parts) :
    keyParts key = parts := by
  have hsplit : Text.splitAt (· == '>') (keyText parts) = parts.map String.toList := by
    refine Text.splitAt_intercalate (by simpa using hne) ?_
    rw [List.forall_mem_map]
    exact fun part hpart => (h part hpart).closed
  rw [keyParts, Text.split, Text.toList_trim, hkey, trimChars_keyText h, hsplit, List.map_map]
  exact (List.map_congr_left fun part _ => String.ofList_toList).trans (List.map_id parts)

/-- A key of several parts does not begin with a blank. -/
theorem beginsBare_of_keyText {first second : String} {rest : List String} (h : IsKeyPart first)
    {key : String} (hkey : key.toList = keyText (first :: second :: rest)) :
    Properties.beginsBare key = false := by
  have hbare {c : Char} (hc : Text.isBlank c = false) : Properties.isBareBlank c = false := by
    rw [Properties.isBareBlank, hc, Bool.false_and]
  rw [Properties.beginsBare, hkey, keyText_cons_cons]
  cases hfirst : first.toList with
  | nil => exact hbare (by decide)
  | cons c cs => exact hbare (h.head c (by rw [hfirst]; rfl))

/-! ## Service definitions -/

/-- A level is read back from its name. -/
theorem Level.ofName?_name (level : Level) : ofName? level.name = some level := by
  cases level <;> decide

/-- The name of a level may be a part of a key. -/
theorem Level.isKeyPart_name (level : Level) : IsKeyPart level.name := by
  cases level <;> exact ⟨by decide, by decide⟩

namespace ServiceDefinition

/-- Whether a definition can have been read. -/
structure Proper (d : ServiceDefinition) : Prop where
  /-- The contract is part of a key. -/
  contract : IsKeyPart d.contract
  /-- The id is part of a key. -/
  id : IsKeyPart d.id
  /-- The implementation can have been read. -/
  implementation : d.implementation.Proper

/-- A service definition that is read from an entry is proper. -/
theorem proper_of_ofEntry {key value root : String} {source : Location} {d : ServiceDefinition}
    (h : ofEntry key value root source = .ok d) : d.Proper := by
  obtain ⟨contract, id, level, rank, i, hparts, -, hi, rfl⟩ :=
    (@Entry.service_eq_ok_iff root ⟨key, value, source⟩ d).1 h
  exact ⟨isKeyPart_trim hparts (by simp), isKeyPart_trim hparts (by simp),
    Implementation.proper_of_ofValue hi⟩

/-- The key of a service is written from its contract, its id and its level. -/
theorem toList_key (d : ServiceDefinition) :
    d.toEntry.1.toList = keyText [d.contract, d.id, d.level.name] := by
  simp [toEntry, toString, keyText_cons_cons, keyText_singleton]

/-- The key of a proper service definition is taken apart into what it was written from. -/
theorem Proper.keyParts_key {d : ServiceDefinition} (h : d.Proper) :
    keyParts d.toEntry.1 = [d.contract, d.id, d.level.name] := by
  refine keyParts_of_keyText (List.cons_ne_nil _ _) ?_ d.toList_key
  simp [h.contract, h.id, Level.isKeyPart_name]

/-- **A proper definition is read back** from the entry it is written to, at any place. -/
theorem Proper.ofEntry_toEntry {d : ServiceDefinition} (h : d.Proper) (source : Location) :
    ofEntry d.toEntry.1 d.toEntry.2 d.root source = .ok { d with source } := by
  refine (@Entry.service_eq_ok_iff d.root ⟨d.toEntry.1, d.toEntry.2, source⟩ _).2
    ⟨d.contract, d.id, d.level.name, d.level, d.implementation, h.keyParts_key, ?_,
      h.implementation.ofValue_text _ _, ?_⟩
  · rw [(Level.isKeyPart_name d.level).trim_eq, Level.ofName?_name]
  · rw [h.contract.trim_eq, h.id.trim_eq]

/-- The key of a proper service definition does not begin with a bare blank. -/
theorem Proper.beginsBare_key {d : ServiceDefinition} (h : d.Proper) :
    Properties.beginsBare d.toEntry.1 = false :=
  beginsBare_of_keyText h.contract d.toList_key

end ServiceDefinition

/-! ## Plugin definitions -/

/-- A number may be a part of a key. -/
theorem isKeyPart_toString (n : Int) : IsKeyPart (toString n) where
  trimmed := Text.trimChars_eq_self_of_forall fun _ hc => Text.isBlank_of_mem_toString hc
  closed := fun hmem => by
    rcases Text.mem_toList_toString hmem with hminus | hdigit
    · cases hminus
    · cases hdigit

namespace PluginDefinition

/-- Whether a definition can have been read: in particular nothing has disabled it. -/
structure Proper (d : PluginDefinition) : Prop where
  /-- The contract is part of a key. -/
  contract : IsKeyPart d.contract
  /-- The priority is not too small. -/
  min_le : minPriority ≤ d.priority
  /-- The priority is not too great. -/
  le_max : d.priority ≤ maxPriority
  /-- The implementation can have been read. -/
  implementation : d.implementation.Proper
  /-- The definition is as it was found. -/
  found : d.enabled = true ∧ d.disabledBy = none

/-- A plugin definition that is read from an entry is proper. -/
theorem proper_of_ofEntry {key value root : String} {source : Location} {d : PluginDefinition}
    (h : ofEntry key value root source = .ok d) : d.Proper := by
  obtain ⟨contract, priority, i, hname, hi, rfl⟩ :=
    (@Entry.plugin_eq_ok_iff root ⟨key, value, source⟩ d).1 h
  obtain ⟨first, second, hparts, hpriority, rfl⟩ := pluginName?_eq_some_iff.1 hname
  obtain ⟨-, hbounds⟩ := Option.filter_eq_some_iff.1 hpriority
  obtain ⟨hmin, hmax⟩ := of_decide_eq_true hbounds
  exact ⟨isKeyPart_trim hparts (by simp), hmin, hmax, Implementation.proper_of_ofValue hi,
    rfl, rfl⟩

/-- The key of a plugin is written from its contract and its priority. -/
theorem toList_key (d : PluginDefinition) :
    d.toEntry.1.toList = keyText [d.contract, toString d.priority] := by
  rw [keyText_cons_cons, keyText_singleton]
  show (d.contract ++ ">" ++ toString d.priority).toList = _
  simp

/-- **A proper definition is read back** from the entry it is written to, at any place. -/
theorem Proper.ofEntry_toEntry {d : PluginDefinition} (h : d.Proper) (source : Location) :
    ofEntry d.toEntry.1 d.toEntry.2 d.root source = .ok { d with source } := by
  have hparts : keyParts d.toEntry.1 = [d.contract, toString d.priority] := by
    refine keyParts_of_keyText (List.cons_ne_nil _ _) (fun part hpart => ?_) d.toList_key
    rcases List.mem_pair.1 hpart with rfl | rfl
    · exact h.contract
    · exact isKeyPart_toString _
  have hpriority : readPriority? (Text.trim (toString d.priority)) = some d.priority := by
    rw [(isKeyPart_toString _).trim_eq]
    exact Text.readInt?_toString h.min_le h.le_max
  have hname : pluginName? d.toEntry.1 = some (d.contract, d.priority) :=
    pluginName?_eq_some_iff.2 ⟨_, _, hparts, hpriority, h.contract.trim_eq.symm⟩
  refine (@Entry.plugin_eq_ok_iff d.root ⟨d.toEntry.1, d.toEntry.2, source⟩ _).2
    ⟨d.contract, d.priority, d.implementation, hname, h.implementation.ofValue_text _ _, ?_⟩
  rw [h.found.1, h.found.2]

/-- The key of a proper plugin definition does not begin with a bare blank. -/
theorem Proper.beginsBare_key {d : PluginDefinition} (h : d.Proper) :
    Properties.beginsBare d.toEntry.1 = false :=
  beginsBare_of_keyText h.contract d.toList_key

end PluginDefinition

/-! ## One entry as a text -/

/-- An entry whose key does not begin with a bare blank is all that is read of the text of its
list. -/
theorem Properties.parse_toText_singleton {entry : String × String}
    (h : beginsBare entry.1 = false) (resource : String) :
    parse (ofList [entry]).toText resource = .ok (ofList [entry]) := by
  refine parse_toText_of_not_beginsBare (fun key hkey => ?_) resource
  obtain rfl : key = entry.1 := List.mem_singleton.1 hkey
  exact h

end Wiring
