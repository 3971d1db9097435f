import Mathlib.Data.Nat.Digits.Defs
import Wiring.Text.Blank
import Wiring.Text.Integer

/-!
# Text · Written integers

The decimal form of an integer is read as that integer (`readInt?_toString`), as long as it lies
within the bounds of the reader. What is known of the form itself: it consists of digits and perhaps
a minus sign (`mem_toList_toString`), so it holds no blank and no other sign.
-/

namespace Wiring.Text

/-! ## Digits -/

/-- A digit lies between zero and nine. -/
theorem isDigit_iff {c : Char} : c.isDigit = true ↔ '0' ≤ c ∧ c ≤ '9' := by
  simp [Char.isDigit, Char.le_def, UInt32.le_iff_toNat_le]

/-- A digit is no blank. -/
theorem isBlank_of_isDigit {c : Char} (h : c.isDigit = true) : isBlank c = false := by
  obtain ⟨hlow, hhigh⟩ := isDigit_iff.1 h
  have hlow' : 48 ≤ c.toNat := hlow
  have hhigh' : c.toNat ≤ 57 := hhigh
  simp only [isBlank, blankRanges, List.any_eq_false, Bool.and_eq_true, decide_eq_true_eq,
    List.forall_mem_cons]
  simp only [List.not_mem_nil, false_imp_iff, implies_true, and_true]
  omega

/-- Digits have the value that their characters spell. -/
theorem digitsValue?_of_isDigit {cs : List Char} (h : ∀ c ∈ cs, c.isDigit = true) (acc : Nat) :
    digitsValue? 10 digitValue? acc cs = some (Nat.ofDigitChars 10 cs acc) := by
  induction cs generalizing acc with
  | nil => rfl
  | cons c cs ih =>
    have hc := isDigit_iff.1 (h c List.mem_cons_self)
    have hrest := ih fun d hd => h d (List.mem_cons_of_mem c hd)
    rw [digitsValue?, digitValue?, if_pos hc, Option.bind_some, hrest, Nat.ofDigitChars_cons,
      Nat.mul_comm]

/-- **A written natural number** has its value. -/
theorem decimal?_toDigits (n : Nat) : decimal? (Nat.toDigits 10 n) = some n := by
  have hdigits : ∀ c ∈ Nat.toDigits 10 n, c.isDigit = true := fun c hc =>
    Nat.isDigit_of_mem_toDigits (by omega) (by omega) hc
  have hvalue := digitsValue?_of_isDigit hdigits 0
  rw [Nat.ofDigitChars_ten_toDigits] at hvalue
  cases hcs : Nat.toDigits 10 n with
  | nil => exact absurd hcs Nat.toDigits_ne_nil
  | cons c cs =>
    rw [hcs] at hvalue
    exact hvalue

/-! ## Integers -/

/-- The decimal form of an integer: its digits, behind a minus sign if it is negative. -/
theorem toList_toString (n : Int) :
    (toString n).toList =
      if 0 ≤ n then Nat.toDigits 10 n.toNat else '-' :: Nat.toDigits 10 (-n).toNat := by
  rw [Int.toString_eq_repr, Int.repr_eq_if]
  split
  · exact Nat.toList_repr
  · rw [String.toList_append, Nat.toList_repr]
    rfl

/-- **The characters of a written integer** are digits and the minus sign. -/
theorem mem_toList_toString {n : Int} {c : Char} (h : c ∈ (toString n).toList) :
    c = '-' ∨ c.isDigit = true := by
  rw [toList_toString] at h
  split at h
  · exact .inr (Nat.isDigit_of_mem_toDigits (by omega) (by omega) h)
  · rcases List.mem_cons.1 h with rfl | h
    · exact .inl rfl
    · exact .inr (Nat.isDigit_of_mem_toDigits (by omega) (by omega) h)

/-- A number is written without blanks. -/
theorem isBlank_of_mem_toString {n : Int} {c : Char} (h : c ∈ (toString n).toList) :
    isBlank c = false := by
  rcases mem_toList_toString h with rfl | hdigit
  · decide
  · exact isBlank_of_isDigit hdigit

/-- Digits without a sign are read as they are. -/
theorem readInt?_of_isDigit {min max : Int} {cs : List Char} (h : ∀ c ∈ cs, c.isDigit = true) :
    readInt? min max cs =
      ((decimal? cs).map Int.ofNat).filter fun n => min ≤ n ∧ n ≤ max := by
  unfold readInt?
  split
  · exact absurd (h '+' List.mem_cons_self) (by decide)
  · exact absurd (h '-' List.mem_cons_self) (by decide)
  · rfl

/-- **A written integer is read as itself** between the bounds of the reader. -/
theorem readInt?_toString {min max n : Int} (hmin : min ≤ n) (hmax : n ≤ max) :
    readInt? min max (toString n).toList = some n := by
  rw [toList_toString]
  split
  · next hsign =>
    have hdigits : ∀ c ∈ Nat.toDigits 10 n.toNat, c.isDigit = true := fun c hc =>
      Nat.isDigit_of_mem_toDigits (by omega) (by omega) hc
    have hvalue : Int.ofNat n.toNat = n := Int.toNat_of_nonneg hsign
    rw [readInt?_of_isDigit hdigits, decimal?_toDigits, Option.map_some, hvalue]
    simp [hmin, hmax]
  · next hsign =>
    have hvalue : -Int.ofNat (-n).toNat = n := by
      show -((-n).toNat : Int) = n
      omega
    show ((decimal? (Nat.toDigits 10 (-n).toNat)).map fun n => -Int.ofNat n).filter _ = some n
    rw [decimal?_toDigits, Option.map_some, hvalue]
    simp [hmin, hmax]

end Wiring.Text
