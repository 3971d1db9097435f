import Wiring.Proofs.Tables
import Wiring.Proofs.Text.Trim
import Wiring.Resource
import Wiring.Settings.Validation

/-!
# Settings · What valid settings decide

What settings decide ahead of all records is trimmed, and so is what their validation looks at. The
tables of a valid section hold proper names only, and its fingerprints are written like digests; a
content is left out exactly when the settings name its digest, blanks around it and capitals apart
(`fingerprint_mem_excluded_iff`). Trimming may bring two keys of a table down to one contract,
though. Then the entry with the last key is the only one that counts (`getElem?_trimTable`), so
every entry takes effect exactly when the entries for one contract say the same
(`takeEffect_iff_agrees`). Main statement: `overrides_of_valid`.
-/

namespace Wiring.Settings

open Text (Padded isBlank isBlankText trim trimChars)

/-! ## Hexadecimal digits -/

/-- The digits with which digests are written. -/
def smallDigits : List Char := "0123456789abcdef".toList

/-- The digits of a fingerprint are small. -/
theorem digitChar_mem_smallDigits : ∀ n < 16, Nat.digitChar n ∈ smallDigits := by
  decide

/-- A small digit stays as it is in small letters. -/
theorem toLower_of_mem_smallDigits : ∀ c ∈ smallDigits, c.toLower = c := by
  have hall : smallDigits.all (fun c => c.toLower == c) = true := by decide
  simpa using hall

/-- A small digit is no blank. -/
theorem isBlank_of_mem_smallDigits : ∀ c ∈ smallDigits, isBlank c = false := by
  have hall : smallDigits.all (fun c => !isBlank c) = true := by decide
  simpa using hall

/-- **A digest is written with small digits.** -/
theorem mem_smallDigits_of_mem_fingerprint {bytes : ByteArray} {c : Char}
    (h : c ∈ (fingerprint bytes).toList) : c ∈ smallDigits := by
  rw [fingerprint, Digest.sha256Hex, String.toList_ofList, List.mem_flatMap] at h
  obtain ⟨byte, -, hc⟩ := h
  have hbyte : byte.toNat < 256 := byte.toNat_lt
  simp only [Digest.hexOfByte, List.mem_cons, List.not_mem_nil, or_false] at hc
  rcases hc with rfl | rfl
  · exact digitChar_mem_smallDigits _ (by omega)
  · exact digitChar_mem_smallDigits _ (by omega)

/-- Hexadecimal digits are ASCII characters. -/
theorem toNat_lt_of_isHexDigit {c : Char} (h : Text.isHexDigit c = true) : c.toNat < 128 := by
  have hle {d : Char} (hd : c ≤ d) : c.toNat ≤ d.toNat := hd
  unfold Text.isHexDigit Text.hexValue? at h
  split at h
  · next hc => exact (hle hc.2).trans_lt (by decide)
  · split at h
    · next hc => exact (hle hc.2).trans_lt (by decide)
    · split at h
      · next hc => exact (hle hc.2).trans_lt (by decide)
      · cases h

/-- **A hexadecimal digit**, in capital or small letters, is one of the small digits when it is made
small. -/
theorem toLower_mem_smallDigits {c : Char} (h : Text.isHexDigit c = true) :
    c.toLower ∈ smallDigits := by
  have hall : ∀ n < 128, Text.isHexDigit (Char.ofNat n) = true →
      (Char.ofNat n).toLower ∈ smallDigits := by decide
  simpa using hall c.toNat (toNat_lt_of_isHexDigit h) (by simpa using h)

/-- A blank is no capital. -/
theorem toLower_of_isBlank {c : Char} (h : isBlank c = true) : c.toLower = c := by
  unfold Char.toLower
  refine dif_neg fun hcapital => ?_
  have hlow : 65 ≤ c.toNat := hcapital.1
  have hhigh : c.toNat ≤ 90 := hcapital.2
  simp [isBlank, Text.blankRanges] at h
  omega

/-- What becomes one of the small digits is no blank. -/
theorem isBlank_of_toLower_mem {c : Char} (h : c.toLower ∈ smallDigits) : isBlank c = false := by
  cases hblank : isBlank c with
  | false => rfl
  | true =>
    rw [toLower_of_isBlank hblank] at h
    exact hblank.symm.trans (isBlank_of_mem_smallDigits c h)

/-! ## Fingerprints -/

/-- Whether an entry of the exclusion list names a fingerprint: it is the fingerprint with blanks
around it, in letters of either case. -/
def NamesFingerprint (entry print : String) : Prop :=
  ∃ inner, Padded inner entry.toList ∧ inner.map Char.toLower = print.toList.map Char.toLower

/-- The normal form of a fingerprint is trimmed and in small letters. -/
theorem toList_normalFingerprint (entry : String) :
    (normalFingerprint entry).toList = (trimChars entry.toList).map Char.toLower := by
  rw [normalFingerprint, Text.asciiLower, String.toList_ofList, Text.toList_trim]

/-- **An entry is brought into the form of a digest** exactly when it names the digest. -/
theorem normalFingerprint_eq_iff {entry : String} {bytes : ByteArray} :
    normalFingerprint entry = fingerprint bytes ↔ NamesFingerprint entry (fingerprint bytes) := by
  have hsmall : (fingerprint bytes).toList.map Char.toLower = (fingerprint bytes).toList :=
    (List.map_congr_left fun c hc =>
      toLower_of_mem_smallDigits c (mem_smallDigits_of_mem_fingerprint hc)).trans (List.map_id _)
  rw [← String.toList_inj, toList_normalFingerprint, NamesFingerprint, hsmall]
  constructor
  · intro h
    exact ⟨_, Text.padded_trimChars _, h⟩
  · rintro ⟨inner, hpadded, hinner⟩
    -- nothing of the digest is trimmed away
    have htrimmed : trimChars inner = inner := by
      refine Text.trimChars_eq_self_of_forall fun c hc => isBlank_of_toLower_mem ?_
      have hmem : c.toLower ∈ (fingerprint bytes).toList := by
        rw [← hinner]
        exact List.mem_map_of_mem hc
      exact mem_smallDigits_of_mem_fingerprint hmem
    rw [hpadded.trimChars_eq htrimmed, hinner]

/-- **A content is left out** exactly when an entry names its digest. -/
theorem fingerprint_mem_excluded_iff {s : Settings} {bytes : ByteArray} :
    fingerprint bytes ∈ s.overrides.excluded ↔
      ∃ entry ∈ s.fileExclusion, NamesFingerprint entry (fingerprint bytes) := by
  simp only [overrides, NameSet.mem_ofNames, List.mem_map, Std.ExtTreeSet.mem_toList,
    normalFingerprint_eq_iff]

/-- A fingerprint without a fault has a digit, and only hexadecimal ones. -/
theorem fingerprintFault?_eq_none_iff {entry : String} :
    fingerprintFault? entry = none ↔
      trimChars entry.toList ≠ [] ∧ ∀ c ∈ trimChars entry.toList, Text.isHexDigit c = true := by
  have hempty : (trim entry).isEmpty = true ↔ trimChars entry.toList = [] := by
    rw [String.isEmpty_iff, Text.trim_eq_empty_iff]
  unfold fingerprintFault?
  simp only [hempty, Text.toList_trim, List.all_eq_true]
  split
  · next h => simp [h]
  · next h =>
    split
    · next hdigits => simpa [h] using hdigits
    · next hdigits => simpa [h] using hdigits

/-- **Fingerprints without a fault** come into the form of digests. -/
theorem normalFingerprint_of_fault_none {entry : String} (h : fingerprintFault? entry = none) :
    normalFingerprint entry ≠ "" ∧ ∀ c ∈ (normalFingerprint entry).toList, c ∈ smallDigits := by
  obtain ⟨hne, hdigits⟩ := fingerprintFault?_eq_none_iff.1 h
  constructor
  · rw [Ne, ← String.toList_inj, toList_normalFingerprint]
    simpa using hne
  · rw [toList_normalFingerprint, List.forall_mem_map]
    exact fun c hc => toLower_mem_smallDigits (hdigits c hc)

/-! ## Decisions for contracts -/

/-- Whether a text is a proper name: trimmed, and not blank. -/
def IsProper (text : String) : Prop :=
  trim text = text ∧ isBlankText text = false

/-- What is left of a text that is not blank is proper. -/
theorem isProper_trim {text : String} (h : isBlankText text = false) : IsProper (trim text) := by
  refine ⟨Text.trim_trim text, ?_⟩
  rw [Bool.eq_false_iff, Ne, Text.isBlankText_iff] at h ⊢
  rwa [Text.toList_trim, Text.trimChars_trimChars]

/-- A decision is in order exactly if neither its contract nor what it says is blank. -/
theorem decisionFault?_eq_none_iff {field : ContractField} {decision : String × String} :
    decisionFault? field decision = none ↔
      isBlankText decision.1 = false ∧ isBlankText decision.2 = false := by
  unfold decisionFault?
  split <;> simp_all

/-- What the entries of a table say of a contract: the trimmed values of the entries whose keys come
down to it, in the order of the keys. -/
def saidOf (table : Table String) (contract : String) : List String :=
  (table.toList.filter fun entry => trim entry.1 = contract).map fun entry => trim entry.2

/-- Whether entries whose keys come down to one contract say the same. -/
def Agrees (table : Table String) : Prop :=
  ∀ entry ∈ table.toList, ∀ other ∈ table.toList,
    trim entry.1 = trim other.1 → trim entry.2 = trim other.2

instance (table : Table String) : Decidable (Agrees table) :=
  inferInstanceAs (Decidable (∀ entry ∈ table.toList, ∀ other ∈ table.toList,
    trim entry.1 = trim other.1 → trim entry.2 = trim other.2))

section Tables

variable {table : Table String} {field : ContractField}

/-- **The last entry counts** of those whose keys come down to one contract. -/
theorem getElem?_trimTable (table : Table String) (contract : String) :
    (trimTable table)[contract]? = (saidOf table contract).getLast? := by
  rw [trimTable, Table.getElem?_ofPairs_eq_getLast?, List.filter_map, List.map_map]
  simp only [saidOf, Function.comp_def]

/-- **Every entry takes effect** exactly when the entries for one contract say the same. -/
theorem takeEffect_iff_agrees :
    (∀ entry ∈ table.toList, (trimTable table)[trim entry.1]? = some (trim entry.2)) ↔
      Agrees table := by
  constructor
  · intro h entry hentry other hother hkey
    have heffect := h other hother
    rw [← hkey, h entry hentry] at heffect
    exact Option.some.inj heffect
  · intro h entry hentry
    refine (Table.getElem?_ofPairs_eq_some_iff ?_).2 (List.mem_map_of_mem hentry)
    -- two values of one key come from entries for one contract
    intro contract said said' hsaid hsaid'
    obtain ⟨entry, hentry, heq⟩ := List.mem_map.1 hsaid
    obtain ⟨other, hother, heq'⟩ := List.mem_map.1 hsaid'
    obtain ⟨rfl, rfl⟩ := Prod.mk.inj heq
    obtain ⟨hkey, rfl⟩ := Prod.mk.inj heq'
    exact h entry hentry other hother hkey.symm

/-- A table without a fault decides proper things for proper names. -/
theorem isProper_of_getElem?_trimTable
    (hfaults : table.toList.filterMap (decisionFault? field) = []) {contract said : String}
    (h : (trimTable table)[contract]? = some said) : IsProper contract ∧ IsProper said := by
  obtain ⟨entry, hentry, heq⟩ := List.mem_map.1 (Table.mem_of_getElem?_ofPairs h)
  obtain ⟨rfl, rfl⟩ := Prod.mk.inj heq
  obtain ⟨hkey, hsaid⟩ :=
    decisionFault?_eq_none_iff.1 (List.filterMap_eq_nil_iff.1 hfaults entry hentry)
  exact ⟨isProper_trim hkey, isProper_trim hsaid⟩

end Tables

/-! ## Valid settings -/

/-- Valid settings have no faults. -/
theorem faults_eq_nil_of_validate {s : Settings} (h : s.validate = .ok ()) : s.faults = [] := by
  unfold validate at h
  split at h
  · cases h
  · next hhead => exact List.head?_eq_none_iff.1 hhead

/-- What a table decides after it was trimmed. -/
structure Decides (table decided : Table String) : Prop where
  /-- It decides proper things for proper names. -/
  proper : ∀ contract said, decided[contract]? = some said → IsProper contract ∧ IsProper said
  /-- Of what the entries say of a contract the last counts. -/
  last : ∀ contract, decided[contract]? = (saidOf table contract).getLast?
  /-- Every entry takes effect exactly when the entries for one contract say the same. -/
  takeEffect_iff :
    (∀ entry ∈ table.toList, decided[trim entry.1]? = some (trim entry.2)) ↔ Agrees table

/-- A table without faults decides on what is left of it when its entries are trimmed. -/
theorem decides_trimTable {table : Table String} {field : ContractField}
    (hfaults : table.toList.filterMap (decisionFault? field) = []) :
    Decides table (trimTable table) where
  proper _ _ h := isProper_of_getElem?_trimTable hfaults h
  last := getElem?_trimTable table
  takeEffect_iff := takeEffect_iff_agrees

/-- **What valid settings decide.** What is decided for contracts is trimmed and not blank, on both
sides, and the last entry for a contract counts; so no entry is lost exactly when the entries for
one contract say the same. Fingerprints are not empty and written with small hexadecimal digits. A
resource is left out exactly when an entry names the digest of its content, blanks around it and
capitals apart. -/
theorem overrides_of_valid {s : Settings} (h : s.validate = .ok ()) :
    Decides s.apply s.overrides.apply ∧ Decides s.ignore s.overrides.ignore ∧
      (∀ print ∈ s.overrides.excluded, print ≠ "" ∧ ∀ c ∈ print.toList, c ∈ smallDigits) ∧
      ∀ resource : Resource, resource.fingerprint ∈ s.overrides.excluded ↔
        ∃ entry ∈ s.fileExclusion,
          NamesFingerprint entry (Digest.sha256Hex resource.bytes) := by
  obtain ⟨⟨⟨hprints, happly⟩, hignore⟩, -⟩ :
      ((s.fileExclusion.toList.filterMap fingerprintFault? = [] ∧
        s.apply.toList.filterMap (decisionFault? .apply) = []) ∧
        s.ignore.toList.filterMap (decisionFault? .ignore) = []) ∧
        (loggingFault? s.logging).toList = [] := by
    simpa only [faults, List.append_eq_nil_iff] using faults_eq_nil_of_validate h
  refine ⟨decides_trimTable happly, decides_trimTable hignore, ?_,
    fun resource => fingerprint_mem_excluded_iff⟩
  intro print hprint
  obtain ⟨entry, hentry, rfl⟩ := List.mem_map.1 (NameSet.mem_ofNames.1 hprint)
  exact normalFingerprint_of_fault_none (List.filterMap_eq_nil_iff.1 hprints entry hentry)

/-- Settings in which two entries for one contract say the same, and which name the digest of the
empty content in capitals. -/
def greeters : Settings :=
  { Settings.default with
    apply := .ofPairs [(" demo.Greeter", "english "), ("demo.Greeter", "english")]
    ignore := .ofPairs [("demo.Filter\t", "demo.Audit")]
    fileExclusion := .ofNames
      [" E3B0C44298FC1C149AFBF4C8996FB92427AE41E4649B934CA495991B7852B855 "] }

/-- Both entries for the contract take effect, and the empty content is left out. -/
theorem overrides_of_valid_greeters :
    greeters.validate = .ok () ∧
      (∀ entry ∈ greeters.apply.toList,
        greeters.overrides.apply[trim entry.1]? = some (trim entry.2)) ∧
      (∀ entry ∈ greeters.ignore.toList,
        greeters.overrides.ignore[trim entry.1]? = some (trim entry.2)) ∧
      (⟨⟨"empty"⟩, .empty⟩ : Resource).fingerprint ∈ greeters.overrides.excluded := by
  have hvalid : greeters.validate = .ok () := by decide +kernel
  obtain ⟨happly, hignore, -, hexcluded⟩ := overrides_of_valid hvalid
  refine ⟨hvalid, happly.takeEffect_iff.2 (by decide +kernel),
    hignore.takeEffect_iff.2 (by decide +kernel), (hexcluded _).2 ?_⟩
  refine ⟨" E3B0C44298FC1C149AFBF4C8996FB92427AE41E4649B934CA495991B7852B855 ", by decide +kernel,
    _, Text.padded_trimChars _, by decide +kernel⟩

/-- **An entry is lost** where two entries for one contract say different things: valid settings
name two services for one contract, and one of them is not applied. -/
theorem overrides_lose_entry :
    let s := { Settings.default with
      apply := .ofPairs [(" demo.Greeter", "english"), ("demo.Greeter", "german")] }
    s.validate = .ok () ∧ (" demo.Greeter", "english") ∈ s.apply.toList ∧
      s.overrides.apply[trim " demo.Greeter"]? = some "german" ∧ "german" ≠ trim "english" := by
  decide +kernel

end Wiring.Settings
