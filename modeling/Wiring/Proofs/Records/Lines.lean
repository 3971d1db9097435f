import Mathlib.Data.List.Perm.Basic
import Wiring.Proofs.Properties.Pairs
import Wiring.Proofs.Records.Merging

/-!
# Records · Lines and entries

Between the lines of a resource and its entries stands the property list: of the lines that spell
one key the last gives the value and the others leave no trace. A `Page` is a resource read line by
line, such repetitions included, and `Page.entries` is what is left of it (`Page.mem_entries_iff`).
Main statement: where service or plugin definitions are read, a line is lost exactly if its resource
spells its key again. Repetitions of a name in other spellings, or in other resources, are never
lost: they are conflicts among services and separate definitions among plugins.
-/

namespace Wiring

/-! ## Pages -/

/-- The pairs that the logical lines of a resource hold, keys that come again included. -/
structure Page where
  /-- The resource. -/
  source : Location
  /-- The pairs, line by line. -/
  pairs : List (String × String)

namespace Page

/-- One entry for each line. -/
def lines (page : Page) : List Entry :=
  page.pairs.map fun pair => ⟨pair.1, pair.2, page.source⟩

/-- The entries of the property list that the lines make. -/
def entries (page : Page) : List Entry :=
  entriesOf page.source (Properties.ofList page.pairs)

/-- Whether no two lines spell one key. -/
def KeysDistinct (page : Page) : Prop :=
  (page.pairs.map Prod.fst).Nodup

/-- The lines of a page have the keys that are spelled there. -/
theorem map_key_lines (page : Page) : page.lines.map Entry.key = page.pairs.map Prod.fst := by
  rw [lines, List.map_map]
  rfl

/-- The entries of a page have the keys of the property list. -/
theorem map_key_entries (page : Page) :
    page.entries.map Entry.key = (Properties.ofList page.pairs).keys := by
  rw [entries, entriesOf, List.map_map, Properties.keys]
  rfl

/-- Lines and entries have the same keys. -/
theorem exists_entry_of_line {page : Page} {line : Entry} (h : line ∈ page.lines) :
    ∃ entry ∈ page.entries, entry.key = line.key := by
  have hkey : line.key ∈ page.entries.map Entry.key := by
    rw [map_key_entries, Properties.mem_keys_ofList, ← map_key_lines]
    exact List.mem_map_of_mem h
  exact List.mem_map.1 hkey

/-- **Of the lines that spell one key** the last is left. -/
theorem mem_entries_iff {page : Page} {entry : Entry} :
    entry ∈ page.entries ↔
      page.pairs.reverse.lookup entry.key = some entry.value ∧ entry.source = page.source := by
  obtain ⟨key, value, source⟩ := entry
  rw [entries, entriesOf, List.mem_map, ← Properties.get?_ofList]
  constructor
  · rintro ⟨pair, hpair, heq⟩
    obtain ⟨rfl, rfl, rfl⟩ := Entry.mk.inj heq
    exact ⟨Properties.mem_entries_iff_get?.1 hpair, rfl⟩
  · rintro ⟨hget, rfl⟩
    exact ⟨(key, value), Properties.mem_entries_iff_get?.2 hget, rfl⟩

/-- **Without repetitions** the entries are the lines. -/
theorem entries_eq_lines {page : Page} (h : page.KeysDistinct) : page.entries = page.lines := by
  rw [entries, entriesOf, Properties.entries_ofList_of_nodup h]
  rfl

/-- There are no more entries than lines. -/
theorem length_entries_le (page : Page) : page.entries.length ≤ page.lines.length := by
  rw [entries, entriesOf, lines, List.length_map, List.length_map]
  exact Properties.size_ofList_le page.pairs

/-- No line is lost exactly if no two lines spell one key. -/
theorem length_entries_eq_iff (page : Page) :
    page.entries.length = page.lines.length ↔ page.KeysDistinct := by
  rw [entries, entriesOf, lines, List.length_map, List.length_map]
  exact Properties.size_ofList_eq_iff page.pairs

/-! ## Several pages -/

/-- Pages without a repeated key have their lines as entries. -/
theorem flatMap_entries_eq {pages : List Page} (h : ∀ page ∈ pages, page.KeysDistinct) :
    pages.flatMap entries = pages.flatMap lines := by
  rw [List.flatMap_def, List.flatMap_def,
    List.map_congr_left fun page hpage => entries_eq_lines (h page hpage)]

/-- All pages together have no more entries than lines. -/
theorem length_flatMap_entries_le (pages : List Page) :
    (pages.flatMap entries).length ≤ (pages.flatMap lines).length := by
  induction pages with
  | nil => exact Nat.le_refl 0
  | cons page pages ih =>
    have hpage := page.length_entries_le
    rw [List.flatMap_cons, List.flatMap_cons, List.length_append, List.length_append]
    omega

/-- **As many entries as lines** are there exactly when no page repeats a key. -/
theorem length_flatMap_entries_eq_iff (pages : List Page) :
    (pages.flatMap entries).length = (pages.flatMap lines).length ↔
      ∀ page ∈ pages, page.KeysDistinct := by
  induction pages with
  | nil => simp
  | cons page pages ih =>
    have hpage := page.length_entries_le
    have hpages := length_flatMap_entries_le pages
    rw [List.forall_mem_cons, ← ih, ← page.length_entries_eq_iff, List.flatMap_cons,
      List.flatMap_cons, List.length_append, List.length_append]
    omega

end Page

/-! ## The pages of a family -/

/-- A resource read line by line. -/
def Resource.page (resource : Resource) : Except SyntaxError Page :=
  match String.fromUTF8? resource.bytes with
  | some text =>
    (Properties.readEntries text resource.location.text).map fun pairs => ⟨resource.location, pairs⟩
  | none => .error (.encoding resource.location.text)

/-- A resource can be decoded exactly when it can be read line by line. -/
theorem Resource.decode_eq_map_page (resource : Resource) :
    resource.decode = resource.page.map Page.entries := by
  unfold decode page Properties.ofBytes
  cases String.fromUTF8? resource.bytes with
  | none => rfl
  | some text =>
    simp only [Properties.parse]
    cases Properties.readEntries text resource.location.text <;> rfl

/-- `pages` are the resources of a family that are not excluded, each read line by line. -/
def HasPages (view : View) (overrides : Overrides) (root : String) (family : Family)
    (pages : List Page) : Prop :=
  ∃ resources, view.find (root ++ family.file) = .ok resources ∧
    List.Forall₂ (fun resource page => resource.page = .ok page)
      (keptResources overrides resources) pages

/-- **The entries of a family** are those of its pages. -/
theorem hasEntries_iff {view : View} {overrides : Overrides} {root : String} {family : Family}
    {entries : List Entry} :
    HasEntries view overrides root family entries ↔
      ∃ pages, HasPages view overrides root family pages ∧
        entries = pages.flatMap Page.entries := by
  unfold HasEntries HasPages
  simp only [Resource.decode_eq_map_page, forall₂_map_eq_ok_iff]
  constructor
  · rintro ⟨resources, _, hfind, ⟨pages, hpages, rfl⟩, rfl⟩
    exact ⟨pages, ⟨resources, hfind, hpages⟩, List.flatMap_def.symm⟩
  · rintro ⟨pages, ⟨resources, hfind, hpages⟩, rfl⟩
    exact ⟨resources, _, hfind, ⟨pages, hpages, rfl⟩, List.flatMap_def⟩

namespace Records

/-! ## Services -/

/-- Where entries have distinct names, so have lines exactly if no page repeats a key. -/
theorem nodup_serviceName?_lines_iff {pages : List Page}
    (h : ((pages.flatMap Page.entries).map fun entry => serviceName? entry.key).Nodup) :
    ((pages.flatMap Page.lines).map fun line => serviceName? line.key).Nodup ↔
      ∀ page ∈ pages, page.KeysDistinct := by
  constructor
  · intro hlines page hpage
    rw [List.map_flatMap, List.nodup_flatMap] at hlines
    have hnames : ((page.lines.map Entry.key).map serviceName?).Nodup := by
      simp only [List.map_map, Function.comp_def]
      exact hlines.1 page hpage
    rw [Page.map_key_lines] at hnames
    exact hnames.of_map serviceName?
  · intro hdistinct
    rw [← Page.flatMap_entries_eq hdistinct]
    exact h

/-- **Where entries have distinct names**, two lines have one name only if they stand in one
resource and spell one key. -/
theorem eq_of_serviceName?_eq {pages : List Page}
    (h : ((pages.flatMap Page.entries).map fun entry => serviceName? entry.key).Nodup) {i j : Nat}
    {first second : Page} (hfirst : pages[i]? = some first) (hsecond : pages[j]? = some second)
    {line other : Entry} (hline : line ∈ first.lines) (hother : other ∈ second.lines)
    (hname : serviceName? line.key = serviceName? other.key) : i = j ∧ line.key = other.key := by
  obtain ⟨entry, hentry, hkey⟩ := Page.exists_entry_of_line hline
  obtain ⟨entry', hentry', hkey'⟩ := Page.exists_entry_of_line hother
  rw [← hkey, ← hkey'] at hname ⊢
  rw [List.map_flatMap, List.nodup_flatMap] at h
  obtain ⟨hinside, hbetween⟩ := h
  -- pages at different places have no name in common
  have happart {m n : Nat} {a b : Page} (hlt : m < n) (ha : pages[m]? = some a)
      (hb : pages[n]? = some b) {x y : Entry} (hx : x ∈ a.entries) (hy : y ∈ b.entries) :
      serviceName? x.key ≠ serviceName? y.key := by
    obtain ⟨hm, rfl⟩ := List.getElem?_eq_some_iff.1 ha
    obtain ⟨hn, rfl⟩ := List.getElem?_eq_some_iff.1 hb
    intro heq
    have hdisjoint := List.pairwise_iff_getElem.1 hbetween m n hm hn hlt
    refine hdisjoint (List.mem_map_of_mem hx) ?_
    rw [heq]
    exact List.mem_map_of_mem (f := fun entry : Entry => serviceName? entry.key) hy
  rcases Nat.lt_trichotomy i j with hlt | rfl | hgt
  · exact absurd hname (happart hlt hfirst hsecond hentry hentry')
  · obtain rfl := Option.some.inj (hfirst.symm.trans hsecond)
    refine ⟨rfl, ?_⟩
    rw [List.inj_on_of_nodup_map (hinside first (List.mem_of_getElem? hfirst)) hentry hentry' hname]
  · exact absurd hname.symm (happart hgt hsecond hfirst hentry' hentry)

/-! ## Plugins -/

/-- Definitions that stand in the same order under each contract are as many. -/
theorem length_eq_of_filter_contract_eq {ds ds' : List PluginDefinition}
    (h : ∀ contract, ds.filter (·.contract = contract) = ds'.filter (·.contract = contract)) :
    ds.length = ds'.length := by
  refine List.Perm.length_eq (List.perm_iff_count.2 fun d => ?_)
  have hcount := congrArg (List.count d) (h d.contract)
  rwa [List.count_filter (by simp), List.count_filter (by simp)] at hcount

/-- Whether each of the lines yields a definition of its own: they all hold one, and under a
contract stand exactly these, in order. -/
def YieldsEach (root : String) (lines : List Entry) (plugins : Table (List PluginDefinition)) :
    Prop :=
  ∃ ds, List.Forall₂ (fun line d => line.plugin root = .ok d) lines ds ∧
    ∀ contract, plugins.getD contract [] = ds.filter (·.contract = contract)

/-- **Plugin lines are all kept** exactly if no page repeats a key. -/
theorem yieldsEach_iff {root : String} {pages : List Page} {ds : List PluginDefinition}
    (h : List.Forall₂ (fun entry d => entry.plugin root = .ok d) (pages.flatMap Page.entries) ds) :
    YieldsEach root (pages.flatMap Page.lines) (pluginTable ds) ↔
      ∀ page ∈ pages, page.KeysDistinct := by
  constructor
  · rintro ⟨ds', hds', htable⟩
    rw [← Page.length_flatMap_entries_eq_iff, h.length_eq, hds'.length_eq]
    refine length_eq_of_filter_contract_eq fun contract => ?_
    rw [← htable, getD_pluginTable]
  · intro hdistinct
    rw [← Page.flatMap_entries_eq hdistinct]
    exact ⟨ds, h, getD_pluginTable ds⟩

/-! ## Main statement -/

/-- **A line is lost exactly if its resource spells its key again.** Two service lines of one name
are read without a conflict only if they stand in one resource and spell one key, and such lines are
there exactly if some resource repeats a key. Plugin lines each yield a definition of their own
exactly if no resource repeats a key. -/
theorem line_lost_iff_key_repeated (view : View) (overrides : Overrides) (root : String) :
    (∀ services, (readServices view overrides root).outcome = .ok services →
      ∃ pages, HasPages view overrides root .services pages ∧
        (∀ (i j : Nat) (first second : Page) (line other : Entry), pages[i]? = some first →
          pages[j]? = some second → line ∈ first.lines → other ∈ second.lines →
            serviceName? line.key = serviceName? other.key → i = j ∧ line.key = other.key) ∧
        (((pages.flatMap Page.lines).map fun line => serviceName? line.key).Nodup ↔
          ∀ page ∈ pages, page.KeysDistinct)) ∧
    ∀ plugins, (readPlugins view overrides root).outcome = .ok plugins →
      ∃ pages, HasPages view overrides root .plugins pages ∧
        (YieldsEach root (pages.flatMap Page.lines) plugins ↔
          ∀ page ∈ pages, page.KeysDistinct) := by
  constructor
  · intro services h
    obtain ⟨entries, ds, hentries, hds, hnodup, -⟩ := outcome_readServices_eq_ok_iff.1 h
    obtain ⟨pages, hpages, rfl⟩ := hasEntries_iff.1 hentries
    have hnames := (nodup_serviceName?_iff hds).2 hnodup
    refine ⟨pages, hpages, ?_, nodup_serviceName?_lines_iff hnames⟩
    intro i j first second line other hfirst hsecond hline hother hname
    exact eq_of_serviceName?_eq hnames hfirst hsecond hline hother hname
  · intro plugins h
    obtain ⟨entries, ds, hentries, hds, rfl⟩ := outcome_readPlugins_eq_ok_iff.1 h
    obtain ⟨pages, hpages, rfl⟩ := hasEntries_iff.1 hentries
    exact ⟨pages, hpages, yieldsEach_iff hds⟩

/-- A module that has the text at every path. -/
def textView (text : String) : View where
  find _ := .ok [⟨⟨"r"⟩, text.toUTF8⟩]
  traced := false

/-- A view of one text has one page, which holds what is read from the text. -/
theorem hasPages_textView {text : String} {family : Family} {pairs : List (String × String)}
    (h : Properties.readEntries text "r" = .ok pairs) :
    HasPages (textView text) ⟨∅, ∅, ∅⟩ "META-INF/spi/" family [⟨⟨"r"⟩, pairs⟩] := by
  refine ⟨_, rfl, ?_⟩
  have hkept (resources : List Resource) : keptResources ⟨∅, ∅, ∅⟩ resources = resources := by
    simp [keptResources]
  have hdecoded : String.fromUTF8? text.toUTF8 = some text := dif_pos text.isValidUTF8
  rw [hkept]
  refine .cons ?_ .nil
  simp only [Resource.page, hdecoded, h]
  rfl

/-- Of two lines that spell one key, the first leaves no trace: the services are read without a
conflict, and the plugins without the first definition. -/
theorem first_line_lost :
    (HasPages (textView "c>x>library=demo.A\nc>x>library=demo.B") ⟨∅, ∅, ∅⟩ "META-INF/spi/"
        .services [⟨⟨"r"⟩, [("c>x>library", "demo.A"), ("c>x>library", "demo.B")]⟩] ∧
      serviceName? "c>x>library" = some ("c", "x") ∧
      (readServices (textView "c>x>library=demo.A\nc>x>library=demo.B") ⟨∅, ∅, ∅⟩
        "META-INF/spi/").outcome = .ok (serviceTable
          [⟨"c", "x", .library, ⟨"demo.B", none⟩, "META-INF/spi/", ⟨"r"⟩⟩])) ∧
    HasPages (textView "c>1=demo.A\nc>1=demo.B") ⟨∅, ∅, ∅⟩ "META-INF/spi/"
        .plugins [⟨⟨"r"⟩, [("c>1", "demo.A"), ("c>1", "demo.B")]⟩] ∧
      pluginName? "c>1" = some ("c", 1) ∧
      (readPlugins (textView "c>1=demo.A\nc>1=demo.B") ⟨∅, ∅, ∅⟩
        "META-INF/spi/").outcome = .ok (pluginTable
          [⟨"c", 1, ⟨"demo.B", none⟩, "META-INF/spi/", ⟨"r"⟩, true, none⟩]) := by
  have hservices : Properties.readEntries "c>x>library=demo.A\nc>x>library=demo.B" "r" =
      .ok [("c>x>library", "demo.A"), ("c>x>library", "demo.B")] := by decide
  have hplugins : Properties.readEntries "c>1=demo.A\nc>1=demo.B" "r" =
      .ok [("c>1", "demo.A"), ("c>1", "demo.B")] := by decide
  refine ⟨⟨hasPages_textView hservices, by decide, ?_⟩, hasPages_textView hplugins, by decide, ?_⟩
  · refine outcome_readServices_eq_ok_iff.2
      ⟨_, _, hasEntries_iff.2 ⟨_, hasPages_textView hservices, rfl⟩, ?_, by decide, rfl⟩
    exact .cons (by decide) .nil
  · refine outcome_readPlugins_eq_ok_iff.2
      ⟨_, _, hasEntries_iff.2 ⟨_, hasPages_textView hplugins, rfl⟩, ?_, rfl⟩
    exact .cons (by decide) .nil

end Records

end Wiring
