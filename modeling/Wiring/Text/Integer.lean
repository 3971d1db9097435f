/-!
# Text · Integers

Reading decimal integers from a text: an optional sign, then at least one digit, and nothing else.
`readInt?` bounds the value on both sides, `readNat?` reads a value without a minus sign. Leading
zeros are allowed. Hexadecimal numerals of four characters, the form of a character escape, are read
by `readHex4?`.
-/

namespace Wiring.Text

/-! ## Decimal numerals -/

/-- The value of a decimal digit. -/
def digitValue? (c : Char) : Option Nat :=
  if '0' ≤ c ∧ c ≤ '9' then some (c.toNat - '0'.toNat) else none

/-- The value of a list of digits read after the digits with value `acc`. -/
def digitsValue? (base : Nat) (digit? : Char → Option Nat) (acc : Nat) : List Char → Option Nat
  | [] => some acc
  | c :: cs => (digit? c).bind fun d => digitsValue? base digit? (acc * base + d) cs

/-- The value of at least one decimal digit. -/
def decimal? : List Char → Option Nat
  | [] => none
  | cs => digitsValue? 10 digitValue? 0 cs

/-- Reads a number that may carry a plus sign and is at most `max`. -/
def readNat? (max : Nat) (cs : List Char) : Option Nat :=
  let value := match cs with
    | '+' :: digits => decimal? digits
    | digits => decimal? digits
  value.filter (· ≤ max)

/-- Reads a number that may carry a sign and lies between `min` and `max`. -/
def readInt? (min max : Int) (cs : List Char) : Option Int :=
  let value := match cs with
    | '+' :: digits => (decimal? digits).map Int.ofNat
    | '-' :: digits => (decimal? digits).map fun n => -Int.ofNat n
    | digits => (decimal? digits).map Int.ofNat
  value.filter fun n => min ≤ n ∧ n ≤ max

/-! ## Hexadecimal numerals -/

/-- The value of a hexadecimal digit of either case. -/
def hexValue? (c : Char) : Option Nat :=
  if '0' ≤ c ∧ c ≤ '9' then some (c.toNat - '0'.toNat)
  else if 'a' ≤ c ∧ c ≤ 'f' then some (c.toNat - 'a'.toNat + 10)
  else if 'A' ≤ c ∧ c ≤ 'F' then some (c.toNat - 'A'.toNat + 10)
  else none

/-- Whether a character is a hexadecimal digit. -/
def isHexDigit (c : Char) : Bool :=
  (hexValue? c).isSome

/-- Reads a numeral of four characters: four hexadecimal digits, or a plus sign and three. -/
def readHex4? : List Char → Option Nat
  | ['+', b, c, d] => digitsValue? 16 hexValue? 0 [b, c, d]
  | [a, b, c, d] => digitsValue? 16 hexValue? 0 [a, b, c, d]
  | _ => none

/-- The character of a code point, if the code point is a Unicode scalar value. -/
def scalar? (n : Nat) : Option Char :=
  if n.isValidChar then some (Char.ofNat n) else none

end Wiring.Text
