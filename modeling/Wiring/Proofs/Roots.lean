import Wiring.Proofs.Text.Trim
import Wiring.Resource

/-!
# Config roots in normal form

What is known of a config root after it was brought into its normal form, and of the locations below
it. A root in normal form ends in a slash and begins with none, so everything up to the last slash
of a location is the root again where the file has no slash (`uptoLastSlash_append`). Main
statements: the roots that are left as they are (`normalizeRoot_eq_self_iff`), and what holds of the
normal form of any text (`normalizeRoot_normalForm`). Not every normal form is left as it is: the
slashes in front of a text may hide a blank (`HidesBlank`), which then stands in front and is taken
away by a second normalization (`normalizeRoot_normalizeRoot_iff`).
-/

namespace Wiring

/-! ## The last slash -/

/-- Everything up to the last slash ends where the file begins. -/
theorem uptoLastSlash_append (directory : List Char) {file : List Char} (hfile : '/' ∉ file) :
    uptoLastSlash (directory ++ '/' :: file) = directory ++ ['/'] := by
  have hskip : ∀ c ∈ file.reverse, (c != '/') = true := by
    intro c hc
    have hne : c ≠ '/' := fun h => hfile (h ▸ List.mem_reverse.1 hc)
    simpa using hne
  have hreverse : (directory ++ '/' :: file).reverse =
      file.reverse ++ '/' :: directory.reverse := by
    simp
  unfold uptoLastSlash
  rw [hreverse, List.dropWhile_append_of_pos hskip]
  simp

/-! ## The ends of a root -/

/-- Whether the first character is a blank. -/
def BeginsWithBlank (text : String) : Prop :=
  ∃ c ∈ text.toList.head?, Text.isBlank c = true

instance (text : String) : Decidable (BeginsWithBlank text) :=
  decidable_of_iff (text.toList.head?.any Text.isBlank = true) <| by
    unfold BeginsWithBlank
    cases text.toList.head? <;> simp

/-- A closed root ends in a slash. -/
theorem exists_closeRoot_eq (cs : List Char) : ∃ directory, closeRoot cs = directory ++ ['/'] := by
  unfold closeRoot
  split
  · next hlast => exact List.getLast?_eq_some_iff.1 hlast
  · exact ⟨cs, rfl⟩

/-- A text that ends in a slash is closed already. -/
theorem closeRoot_eq_self {cs : List Char} (h : cs.getLast? = some '/') : closeRoot cs = cs := by
  unfold closeRoot
  rw [if_pos h]

/-- The normal form of a root, seen from what is left of the text. -/
theorem toList_normalizeRoot (root : String) :
    (normalizeRoot root).toList =
      match (Text.trimChars root.toList).dropWhile (· == '/') with
      | [] => defaultRoot.toList
      | c :: cs => closeRoot (c :: cs) := by
  unfold normalizeRoot
  cases (Text.trimChars root.toList).dropWhile (· == '/') with
  | nil => rfl
  | cons c cs => exact String.toList_ofList

/-- **A root in normal form ends in a slash.** -/
theorem exists_normalizeRoot_eq (root : String) :
    ∃ directory, (normalizeRoot root).toList = directory ++ ['/'] := by
  rw [toList_normalizeRoot]
  split
  · exact ⟨"META-INF/spi".toList, by decide⟩
  · exact exists_closeRoot_eq _

/-- A root in normal form does not begin with a slash. -/
theorem head?_normalizeRoot_ne (root : String) : (normalizeRoot root).toList.head? ≠ some '/' := by
  rw [toList_normalizeRoot]
  split
  · decide
  · next c cs h =>
    have hhead := List.head?_dropWhile_not (· == '/') (Text.trimChars root.toList)
    rw [h] at hhead
    have hc : c ≠ '/' := by simpa using hhead
    unfold closeRoot
    split <;> simpa using hc

/-! ## Normalizing again -/

/-- A text that ends in a slash is trimmed at its start only. -/
theorem trimChars_append_slash (directory : List Char) :
    Text.trimChars (directory ++ ['/']) = Text.trimStart (directory ++ ['/']) := by
  have hslash : Text.isBlank '/' = false := by decide
  obtain ⟨kept, hkept⟩ : ∃ kept, Text.trimStart (directory ++ ['/']) = kept ++ ['/'] := by
    unfold Text.trimStart
    rw [List.dropWhile_append]
    split
    · exact ⟨[], by simp [hslash]⟩
    · exact ⟨_, rfl⟩
  unfold Text.trimChars Text.trimEnd
  rw [hkept, List.reverse_append]
  simp [hslash]

/-- Trimming takes away a blank in front. -/
theorem length_trimChars_lt {cs : List Char} {c : Char} (hc : c ∈ cs.head?)
    (hblank : Text.isBlank c = true) : (Text.trimChars cs).length < cs.length := by
  cases cs with
  | nil => cases hc
  | cons d rest =>
    obtain rfl : d = c := Option.some.inj hc
    have hstart : Text.trimStart (d :: rest) = Text.trimStart rest := by
      simp [Text.trimStart, hblank]
    have hend := (Text.trimEnd_isPrefix (Text.trimStart rest)).length_le
    have hrest := (Text.trimStart_isSuffix rest).length_le
    unfold Text.trimChars
    rw [hstart, List.length_cons]
    omega

/-- A root that is left as it is begins with no blank: a blank would be taken away. -/
theorem not_beginsWithBlank_of_normalizeRoot_eq {root : String} (h : normalizeRoot root = root) :
    ¬BeginsWithBlank root := by
  obtain ⟨directory, hroot⟩ := exists_normalizeRoot_eq root
  rw [h] at hroot
  rintro ⟨c, hc, hblank⟩
  have hlist := toList_normalizeRoot root
  rw [h] at hlist
  split at hlist
  · -- the default root begins with no blank
    rw [hlist] at hc
    obtain rfl : 'M' = c := Option.some.inj hc
    exact absurd hblank (by decide)
  · next d ds hkept =>
    -- what was kept is shorter than the text, and nothing is added at its end
    have hsuffix := List.dropWhile_suffix (· == '/') (l := Text.trimChars root.toList)
    rw [hkept] at hsuffix
    have hlast : (d :: ds).getLast? = some '/' := by
      have htrim := trimChars_append_slash directory
      rw [← hroot] at htrim
      rw [htrim] at hsuffix
      obtain ⟨before, hsplit⟩ := hsuffix.trans (Text.trimStart_isSuffix _)
      have hend := congrArg List.getLast? hsplit
      rw [hroot, List.getLast?_concat, List.getLast?_append] at hend
      simpa using hend
    rw [closeRoot_eq_self hlast] at hlist
    rw [← hlist] at hsuffix
    have hlength := hsuffix.length_le
    have hshorter := length_trimChars_lt hc hblank
    omega

/-- A root that ends in a slash, and begins with neither a slash nor a blank, is left as it is. -/
theorem normalizeRoot_eq_self {root : String} {directory : List Char}
    (hroot : root.toList = directory ++ ['/']) (hhead : root.toList.head? ≠ some '/')
    (hblank : ¬BeginsWithBlank root) : normalizeRoot root = root := by
  have hfirst : ∀ c ∈ root.toList.head?, Text.isBlank c = false := by
    intro c hc
    simpa using fun h => hblank ⟨c, hc, h⟩
  have htrim : Text.trimChars root.toList = root.toList := by
    have hend := trimChars_append_slash directory
    rw [← hroot] at hend
    rw [hend, Text.trimStart_eq_self hfirst]
  have hclosed : closeRoot root.toList = root.toList := by
    refine closeRoot_eq_self ?_
    rw [hroot, List.getLast?_concat]
  rw [← String.toList_inj, toList_normalizeRoot, htrim]
  cases hlist : root.toList with
  | nil => simp [hlist] at hroot
  | cons c cs =>
    have hc : (c == '/') = false := by simpa [hlist] using hhead
    rw [List.dropWhile_cons_of_neg (by simpa using hc)]
    rwa [hlist] at hclosed

/-- **The roots that are left as they are**: they end in a slash, and begin with neither a slash nor
a blank. -/
theorem normalizeRoot_eq_self_iff {root : String} :
    normalizeRoot root = root ↔ (∃ directory, root.toList = directory ++ ['/']) ∧
      root.toList.head? ≠ some '/' ∧ ¬BeginsWithBlank root := by
  constructor
  · intro h
    have hend := exists_normalizeRoot_eq root
    have hhead := head?_normalizeRoot_ne root
    rw [h] at hend hhead
    exact ⟨hend, hhead, not_beginsWithBlank_of_normalizeRoot_eq h⟩
  · rintro ⟨⟨directory, hroot⟩, hhead, hblank⟩
    exact normalizeRoot_eq_self hroot hhead hblank

/-- **A second normalization changes nothing** exactly when the first left no blank in front. -/
theorem normalizeRoot_normalizeRoot_iff {root : String} :
    normalizeRoot (normalizeRoot root) = normalizeRoot root ↔
      ¬BeginsWithBlank (normalizeRoot root) := by
  rw [normalizeRoot_eq_self_iff]
  constructor
  · rintro ⟨-, -, hblank⟩
    exact hblank
  · intro hblank
    exact ⟨exists_normalizeRoot_eq root, head?_normalizeRoot_ne root, hblank⟩

/-! ## Blanks behind slashes -/

/-- Whether the slashes in front of a root hide a blank: without the blanks around it, the text
begins with slashes that a blank follows. -/
def HidesBlank (root : String) : Prop :=
  ∃ slashes c rest, (∀ d ∈ slashes, d = '/') ∧ Text.isBlank c = true ∧
    Text.trimChars root.toList = slashes ++ c :: rest

/-- A root in normal form begins with what stands behind the slashes. -/
theorem head?_normalizeRoot {root : String} {c : Char} {rest : List Char}
    (h : (Text.trimChars root.toList).dropWhile (· == '/') = c :: rest) :
    (normalizeRoot root).toList.head? = some c := by
  rw [toList_normalizeRoot, h]
  show (closeRoot (c :: rest)).head? = some c
  unfold closeRoot
  split <;> rfl

/-- **A root in normal form begins with a blank** exactly when its slashes hid one. -/
theorem beginsWithBlank_normalizeRoot_iff {root : String} :
    BeginsWithBlank (normalizeRoot root) ↔ HidesBlank root := by
  constructor
  · rintro ⟨c, hc, hblank⟩
    have hparts := List.takeWhile_append_dropWhile (p := (· == '/'))
      (l := Text.trimChars root.toList)
    cases hkept : (Text.trimChars root.toList).dropWhile (· == '/') with
    | nil =>
      -- nothing is left, and the default root begins with no blank
      have hdefault : normalizeRoot root = defaultRoot := by rw [normalizeRoot, hkept]
      rw [hdefault] at hc
      obtain rfl : 'M' = c := Option.some.inj hc
      exact absurd hblank (by decide)
    | cons d rest =>
      obtain rfl : d = c := Option.some.inj ((head?_normalizeRoot hkept).symm.trans hc)
      rw [hkept] at hparts
      refine ⟨_, d, rest, fun e he => ?_, hblank, hparts.symm⟩
      simpa using List.mem_takeWhile_imp he
  · rintro ⟨slashes, c, rest, hslashes, hblank, htrim⟩
    have hc : c ≠ '/' := fun h => absurd (h ▸ hblank) (by decide)
    have hkept : (Text.trimChars root.toList).dropWhile (· == '/') = c :: rest := by
      rw [htrim, List.dropWhile_append_of_pos fun d hd => by simp [hslashes d hd],
        List.dropWhile_cons_of_neg (by simpa using hc)]
    exact ⟨c, head?_normalizeRoot hkept, hblank⟩

/-! ## Main statement -/

/-- **The normal form of a root**, whatever the text: it is not empty, ends in a slash and begins
with none. It begins with no blank, and a second normalization leaves it as it is, exactly when the
slashes in front of the text hide no blank. -/
theorem normalizeRoot_normalForm (root : String) :
    normalizeRoot root ≠ "" ∧ (normalizeRoot root).toList.getLast? = some '/' ∧
      (normalizeRoot root).toList.head? ≠ some '/' ∧
      (¬BeginsWithBlank (normalizeRoot root) ↔ ¬HidesBlank root) ∧
      (normalizeRoot (normalizeRoot root) = normalizeRoot root ↔ ¬HidesBlank root) := by
  obtain ⟨directory, hend⟩ := exists_normalizeRoot_eq root
  refine ⟨?_, ?_, head?_normalizeRoot_ne root, not_congr beginsWithBlank_normalizeRoot_iff, ?_⟩
  · intro hempty
    simp [hempty] at hend
  · rw [hend, List.getLast?_concat]
  · rw [normalizeRoot_normalizeRoot_iff, beginsWithBlank_normalizeRoot_iff]

/-- The slash in front of this text hides a blank: it is in front of the normal form, and the second
normalization takes it away. -/
theorem normalizeRoot_slashBlank :
    normalizeRoot "/ a" = " a/" ∧ BeginsWithBlank (normalizeRoot "/ a") ∧
      normalizeRoot (normalizeRoot "/ a") = "a/" := by
  decide

end Wiring
