import Mathlib.Data.List.Induction
import Wiring.Proofs.Upsert
import Wiring.Settings.Value

/-!
# Settings · Layers of trees

What stands at a path of a tree that was layered from others. A tree leaves a path open if it has
tables on the way, and somewhere no such key; the highest tree that does not is the one that decides
about the path (`decider?`). What it has there is what the layered tree has: nothing, if it has
something else than a table on the way; a table, joined with tables of lower trees, if it has a
table; and any other value as it is. Main statements: `get?_merge` for two trees, `layeredFrom` for
all of them, and `get?_layered_nested` for trees some of which are layered among themselves first.
-/

namespace Wiring.Value

/-! ## Trees in which every key stands once -/

/-- Whether a value is a table. -/
def isTable : Value → Bool
  | table _ => true
  | _ => false

/-- Whether in every table of a tree every key stands once. Lists are left out, as they are never
joined. -/
inductive KeysOnce : Value → Prop
  /-- A value that is no table. -/
  | plain {value : Value} (h : value.isTable = false) : KeysOnce value
  /-- A table. -/
  | table {fields : List (String × Value)} (hkeys : (fields.map Prod.fst).Nodup)
      (hvalues : ∀ field ∈ fields, KeysOnce field.2) : KeysOnce (.table fields)

/-- Every key stands once below a table exactly if it does in its fields. -/
theorem keysOnce_table_iff {fields : List (String × Value)} :
    KeysOnce (.table fields) ↔ FieldsOnce KeysOnce fields := by
  constructor
  · intro h
    cases h with
    | plain h => cases h
    | table hkeys hvalues => exact ⟨hkeys, hvalues⟩
  · exact fun h => .table h.keys h.values

/-- A value that is nested below a path has every key once if it had. -/
theorem keysOnce_nest {path : List String} {value : Value} (h : value.KeysOnce) :
    (nest path value).KeysOnce := by
  induction path with
  | nil => exact h
  | cons key rest ih =>
    rw [nest]
    split
    · exact h
    · exact keysOnce_table_iff.2 (.cons (by simp) ih .nil)

/-! ## One tree on top of another -/

/-- A value on top of what lies below it, if anything does. -/
def onto (below : Option Value) (value : Value) : Value :=
  match below with
  | some old => merge old value
  | none => value

/-- A table on top of another is joined with it field by field. -/
theorem merge_table (below fields : List (String × Value)) :
    merge (.table below) (.table fields) = .table (mergeFields below fields) := by
  rw [merge]

/-- On top of what is no table only the upper tree is left. -/
theorem merge_of_left {earlier : Value} (h : earlier.isTable = false) (later : Value) :
    merge earlier later = later := by
  rw [merge]
  rintro below fields rfl
  cases h

/-- What is no table hides all that is below it. -/
theorem merge_of_right {later : Value} (h : later.isTable = false) (earlier : Value) :
    merge earlier later = later := by
  rw [merge]
  rintro below fields - rfl
  cases h

/-- Fields are laid on top one after the other. -/
theorem mergeFields_cons (below : List (String × Value)) (key : String) (value : Value)
    (rest : List (String × Value)) :
    mergeFields below ((key, value) :: rest) =
      mergeFields (upsert key (onto (below.lookup key) value) below) rest := by
  rw [mergeFields]
  rfl

/-- **Two tables joined** have under a key what either has, the later on top of the earlier. -/
theorem lookup_mergeFields {fields : List (String × Value)} (hkeys : (fields.map Prod.fst).Nodup)
    (below : List (String × Value)) (key : String) :
    (mergeFields below fields).lookup key =
      ((fields.lookup key).map (onto (below.lookup key))).or (below.lookup key) := by
  induction fields generalizing below with
  | nil => simp [mergeFields]
  | cons field rest ih =>
    obtain ⟨name, value⟩ := field
    obtain ⟨hname, hrest⟩ := List.nodup_cons.1 hkeys
    rw [mergeFields_cons, ih hrest, lookup_upsert, lookup_cons_eq_ite]
    by_cases h : key = name
    · subst h
      rw [lookup_eq_none_iff_not_mem.2 hname]
      simp
    · simp [h]

/-- Fields laid on top of others have every key once. -/
theorem fieldsOnce_mergeFields {fields below : List (String × Value)}
    (hfields : ∀ field ∈ fields, field.2.KeysOnce ∧
      ∀ old : Value, old.KeysOnce → (merge old field.2).KeysOnce)
    (hbelow : FieldsOnce KeysOnce below) : FieldsOnce KeysOnce (mergeFields below fields) := by
  induction fields generalizing below with
  | nil => rwa [mergeFields]
  | cons field rest ih =>
    obtain ⟨⟨hvalue, hmerge⟩, hrest⟩ := List.forall_mem_cons.1 hfields
    rw [mergeFields_cons]
    refine ih hrest (hbelow.upsert ?_)
    cases hold : below.lookup field.1 with
    | none => exact hvalue
    | some old => exact hmerge old (hbelow.of_lookup hold)

/-- A tree on top of another has every key once if both had. -/
theorem keysOnce_merge {later : Value} (hlater : later.KeysOnce) {earlier : Value}
    (hearlier : earlier.KeysOnce) : (merge earlier later).KeysOnce := by
  -- The later tree is what is taken apart: each of its values goes onto some value of the earlier.
  induction hlater generalizing earlier with
  | plain h =>
    rw [merge_of_right h]
    exact .plain h
  | @table fields hkeys hvalues ih =>
    cases hearlier with
    | plain h =>
      rw [merge_of_left h]
      exact .table hkeys hvalues
    | table hbelow hold =>
      rw [merge_table, keysOnce_table_iff]
      exact fieldsOnce_mergeFields
        (fun field hfield => ⟨hvalues field hfield, fun old => ih field hfield⟩) ⟨hbelow, hold⟩

/-! ## What a tree says about a path -/

/-- Whether a tree has tables on the way along a path, and somewhere no such key. -/
def leavesOpen (value : Value) (path : List String) : Bool :=
  match path, value with
  | key :: rest, table fields =>
    match fields.lookup key with
    | some inner => leavesOpen inner rest
    | none => true
  | _, _ => false

/-- A path leads through the field of a table that it names first. -/
theorem get?_cons_table (fields : List (String × Value)) (key : String) (rest : List String) :
    (table fields).get? (key :: rest) = (fields.lookup key).bind (get? · rest) := rfl

/-- No path leads into what is no table. -/
theorem get?_cons_of_plain {value : Value} (h : value.isTable = false) (key : String)
    (rest : List String) : value.get? (key :: rest) = none := by
  cases value with
  | table fields => cases h
  | _ => rfl

/-- The last key of a path is looked up in what stands at the rest of it. -/
theorem get?_append_singleton (value : Value) (path : List String) (key : String) :
    value.get? (path ++ [key]) = (value.get? path).bind (field? · key) := by
  simp [get?, List.foldlM_append]

/-- What stands at a path of a tree with every key once has every key once. -/
theorem KeysOnce.of_get? {value found : Value} (h : value.KeysOnce) {path : List String}
    (hfound : value.get? path = some found) : found.KeysOnce := by
  induction path generalizing value with
  | nil => exact Option.some.inj hfound ▸ h
  | cons key rest ih =>
    cases h with
    | plain h =>
      rw [get?_cons_of_plain h] at hfound
      cases hfound
    | table hkeys hvalues =>
      rw [get?_cons_table] at hfound
      obtain ⟨inner, hinner, hfound⟩ := Option.bind_eq_some_iff.1 hfound
      exact ih (FieldsOnce.of_lookup ⟨hkeys, hvalues⟩ hinner) hfound

/-- What is no table leaves no path open. -/
theorem leavesOpen_cons_of_plain {value : Value} (h : value.isTable = false)
    (path : List String) : value.leavesOpen path = false := by
  cases value with
  | table fields => cases h
  | _ => cases path <;> rfl

/-- At a path that is left open nothing stands. -/
theorem get?_of_leavesOpen {value : Value} {path : List String} (h : value.leavesOpen path = true) :
    value.get? path = none := by
  induction path generalizing value with
  | nil => cases h
  | cons key rest ih =>
    cases value with
    | table fields =>
      rw [leavesOpen] at h
      rw [get?_cons_table]
      cases hkey : fields.lookup key with
      | none => rfl
      | some inner =>
        rw [hkey] at h
        exact ih h
    | _ => cases h

/-- A path at which something stands is not left open. -/
theorem leavesOpen_of_get? {value found : Value} {path : List String}
    (h : value.get? path = some found) : value.leavesOpen path = false := by
  rw [Bool.eq_false_iff]
  intro hopen
  rw [get?_of_leavesOpen hopen] at h
  cases h

/-- **A path of two trees, one on top of the other.** Where the later leaves the path open, what the
earlier has there counts; else what the later has, on top of what the earlier has. -/
theorem get?_merge {later : Value} (hlater : later.KeysOnce) (earlier : Value)
    (path : List String) :
    (merge earlier later).get? path =
      if later.leavesOpen path then earlier.get? path
      else (later.get? path).map (onto (earlier.get? path)) := by
  induction path generalizing earlier later with
  | nil => rfl
  | cons key rest ih =>
    cases hlater with
    | plain h =>
      rw [merge_of_right h, get?_cons_of_plain h, leavesOpen_cons_of_plain h]
      rfl
    | @table fields hkeys hvalues =>
      by_cases hearlier : earlier.isTable = true
      · obtain ⟨below, rfl⟩ : ∃ below, earlier = .table below := by
          cases earlier with
          | table below => exact ⟨below, rfl⟩
          | _ => cases hearlier
        -- Only where both have the first key does the rest of the path meet two trees again.
        rw [merge_table, get?_cons_table, get?_cons_table, get?_cons_table,
          lookup_mergeFields hkeys, leavesOpen]
        cases hkey : fields.lookup key with
        | none => simp
        | some value =>
          have hvalue : value.KeysOnce := FieldsOnce.of_lookup ⟨hkeys, hvalues⟩ hkey
          cases hold : below.lookup key with
          | none =>
            cases hopen : value.leavesOpen rest with
            | true => simpa [onto, hopen] using get?_of_leavesOpen hopen
            | false => cases hget : value.get? rest <;> simp [onto, hget, hopen]
          | some old => simpa [onto] using ih hvalue old
      · have hearlier : earlier.isTable = false := Bool.eq_false_iff.2 hearlier
        rw [merge_of_left hearlier, get?_cons_of_plain hearlier]
        cases hopen : (table fields).leavesOpen (key :: rest) with
        | true => simpa using get?_of_leavesOpen hopen
        | false => cases hget : (table fields).get? (key :: rest) <;> simp [onto]

/-- A path that both trees leave open stays open. -/
theorem leavesOpen_merge {later : Value} (hlater : later.KeysOnce) {earlier : Value}
    {path : List String} (h : later.leavesOpen path = true)
    (hearlier : earlier.leavesOpen path = true) : (merge earlier later).leavesOpen path = true := by
  induction path generalizing earlier later with
  | nil => cases h
  | cons key rest ih =>
    cases hlater with
    | plain hplain =>
      rw [leavesOpen_cons_of_plain hplain] at h
      cases h
    | @table fields hkeys hvalues =>
      cases earlier with
      | table below =>
        rw [leavesOpen] at h hearlier
        rw [merge_table, leavesOpen, lookup_mergeFields hkeys]
        cases hkey : fields.lookup key with
        | none => simpa using hearlier
        | some value =>
          have hvalue : value.KeysOnce := FieldsOnce.of_lookup ⟨hkeys, hvalues⟩ hkey
          rw [hkey] at h
          cases hold : below.lookup key with
          | none => exact h
          | some old =>
            rw [hold] at hearlier
            exact ih hvalue h hearlier
      | _ => cases hearlier

/-! ## Many trees -/

/-- A tree layered from others, the lowest first. -/
def layered (layers : List Value) : Value :=
  layers.foldl merge (.table [])

/-- The highest tree that does not leave a path open. -/
def decider? (layers : List Value) (path : List String) : Option Value :=
  layers.reverse.find? fun layer => !layer.leavesOpen path

variable {layers : List Value} {path : List String} {layer value : Value}

/-- The last tree lies on top. -/
theorem layered_append_singleton (layers : List Value) (layer : Value) :
    layered (layers ++ [layer]) = merge (layered layers) layer := by
  simp [layered]

/-- The last tree decides about a path unless it leaves it open. -/
theorem decider?_append_singleton (layers : List Value) (layer : Value) (path : List String) :
    decider? (layers ++ [layer]) path =
      if layer.leavesOpen path then decider? layers path else some layer := by
  cases h : layer.leavesOpen path <;> simp [decider?, h]

/-- The upper trees decide about a path unless all of them leave it open. -/
theorem decider?_append (lower upper : List Value) (path : List String) :
    decider? (lower ++ upper) path = (decider? upper path).or (decider? lower path) := by
  simp [decider?]

/-- Some tree decides about a path that one of them does not leave open. -/
theorem exists_decider? (hlayer : layer ∈ layers) (h : layer.leavesOpen path = false) :
    ∃ decider, decider? layers path = some decider := by
  rw [← Option.isSome_iff_exists, decider?, List.find?_isSome]
  exact ⟨layer, List.mem_reverse.2 hlayer, by simp [h]⟩

/-- Layered trees have every key once if each of them had. -/
theorem keysOnce_layered (h : ∀ layer ∈ layers, layer.KeysOnce) : (layered layers).KeysOnce := by
  induction layers using List.reverseRecOn with
  | nil => exact keysOnce_table_iff.2 .nil
  | append_singleton layers layer ih =>
    rw [layered_append_singleton]
    exact keysOnce_merge (h layer (by simp)) (ih fun lower hlower => h lower (by simp [hlower]))

/-- A path that every tree leaves open stays open, whether or not there are trees at all. -/
theorem leavesOpen_layered (hlayers : ∀ layer ∈ layers, layer.KeysOnce) (hpath : path ≠ [])
    (h : decider? layers path = none) : (layered layers).leavesOpen path = true := by
  induction layers using List.reverseRecOn with
  | nil =>
    obtain ⟨key, rest, rfl⟩ := List.exists_cons_of_ne_nil hpath
    rfl
  | append_singleton layers layer ih =>
    rw [decider?_append_singleton] at h
    split at h
    · rename_i hopen
      rw [layered_append_singleton]
      exact leavesOpen_merge (hlayers layer (by simp)) hopen
        (ih (fun lower hlower => hlayers lower (by simp [hlower])) h)
    · cases h

/-- **What a layered tree has at a path** is what the tree that decides about it has there, on top
of something. -/
theorem get?_layered (hlayers : ∀ layer ∈ layers, layer.KeysOnce)
    (h : decider? layers path = some layer) :
    ∃ below, (layered layers).get? path = (layer.get? path).map (onto below) := by
  induction layers using List.reverseRecOn with
  | nil => cases h
  | append_singleton layers top ih =>
    rw [decider?_append_singleton] at h
    rw [layered_append_singleton, get?_merge (hlayers top (by simp))]
    split
    · rename_i hopen
      rw [if_pos hopen] at h
      exact ih (fun lower hlower => hlayers lower (by simp [hlower])) h
    · rename_i hopen
      rw [if_neg hopen] at h
      obtain rfl := Option.some.inj h
      exact ⟨_, rfl⟩

/-- What is no table stands alone, whatever lies below it. -/
theorem onto_of_plain {value : Value} (h : value.isTable = false) (below : Option Value) :
    onto below value = value := by
  cases below with
  | none => rfl
  | some old => exact merge_of_right h old

/-- A table stays one, whatever lies below it. -/
theorem exists_onto_table (below : Option Value) (fields : List (String × Value)) :
    ∃ joined, onto below (.table fields) = .table joined := by
  cases below with
  | none => exact ⟨fields, rfl⟩
  | some old =>
    cases old with
    | table old => exact ⟨_, merge_table old fields⟩
    | _ => exact ⟨fields, merge_of_left rfl _⟩

/-- What a tree that is layered from others has at a path, as the tree that decides about the path
says. -/
structure LayeredFrom (layers : List Value) (tree : Value) : Prop where
  /-- A value that is no table stands there as it is. -/
  value : ∀ {path layer value}, decider? layers path = some layer → layer.get? path = some value →
    value.isTable = false → tree.get? path = some value
  /-- Where it has a table, there is one. -/
  table : ∀ {path layer fields}, decider? layers path = some layer →
    layer.get? path = some (.table fields) → ∃ joined, tree.get? path = some (.table joined)
  /-- Where it has something else than a table on the way, there is nothing. -/
  hidden : ∀ {path layer}, decider? layers path = some layer → layer.get? path = none →
    tree.get? path = none
  /-- Where every tree leaves the path open, there is nothing. -/
  absent : ∀ {path}, path ≠ [] → decider? layers path = none → tree.get? path = none

/-- **Layered trees** have what the trees that decide say. -/
theorem layeredFrom (hlayers : ∀ layer ∈ layers, layer.KeysOnce) :
    LayeredFrom layers (layered layers) where
  value hlayer hvalue hplain := by
    obtain ⟨below, hget⟩ := get?_layered hlayers hlayer
    rw [hget, hvalue, Option.map_some, onto_of_plain hplain]
  table {path layer fields} hlayer hvalue := by
    obtain ⟨below, hget⟩ := get?_layered hlayers hlayer
    obtain ⟨joined, hjoined⟩ := exists_onto_table below fields
    exact ⟨joined, by rw [hget, hvalue, Option.map_some, hjoined]⟩
  hidden hlayer hvalue := by
    obtain ⟨below, hget⟩ := get?_layered hlayers hlayer
    rw [hget, hvalue, Option.map_none]
  absent hpath h := get?_of_leavesOpen (leavesOpen_layered hlayers hpath h)

/-- The upper trees may be layered first, and every key still stands once. -/
theorem keysOnce_append_layered {lower upper : List Value}
    (hlower : ∀ layer ∈ lower, layer.KeysOnce) (hupper : ∀ layer ∈ upper, layer.KeysOnce) :
    ∀ layer ∈ lower ++ [layered upper], layer.KeysOnce := by
  intro layer hlayer
  rcases List.mem_append.1 hlayer with hlayer | hlayer
  · exact hlower layer hlayer
  · rw [List.mem_singleton.1 hlayer]
    exact keysOnce_layered hupper

/-- **A value among trees some of which are layered first** stands as it is where the highest tree
that does not leave the path open has it, whichever side that is on. -/
theorem get?_layered_nested {lower upper : List Value} (hlower : ∀ layer ∈ lower, layer.KeysOnce)
    (hupper : ∀ layer ∈ upper, layer.KeysOnce) (hpath : path ≠ [])
    (h : decider? (lower ++ upper) path = some layer) (hvalue : layer.get? path = some value)
    (hplain : value.isTable = false) :
    (layered (lower ++ [layered upper])).get? path = some value := by
  have hlayers := keysOnce_append_layered hlower hupper
  rw [decider?_append] at h
  cases htop : decider? upper path with
  | none =>
    have hlayer : decider? (lower ++ [layered upper]) path = some layer := by
      rw [decider?_append_singleton, if_pos (leavesOpen_layered hupper hpath htop)]
      simpa [htop] using h
    exact (layeredFrom hlayers).value hlayer hvalue hplain
  | some top =>
    obtain rfl : top = layer := by simpa [htop] using h
    have hget : (layered upper).get? path = some value :=
      (layeredFrom hupper).value htop hvalue hplain
    have hlayer : decider? (lower ++ [layered upper]) path = some (layered upper) := by
      rw [decider?_append_singleton, leavesOpen_of_get? hget]
      rfl
    exact (layeredFrom hlayers).value hlayer hget hplain

end Wiring.Value
