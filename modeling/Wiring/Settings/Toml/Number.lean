import Wiring.Text.Integer
import Wiring.Text.Numeral

/-!
# Settings · TOML · Numbers

Numerals of a TOML file. Integers have 64 bits. Floats are read as exact decimal numbers, which is
all that decides whether one is too great to be told from infinity; their values do not matter
beyond that, since no setting is a float.
-/

namespace Wiring.Settings.Toml

/-! ## Digits -/

/-- The digits of a numeral, with single underscores between digits left out. -/
def digits? (isDigit : Char → Bool) (cs : List Char) : Option (List Char) :=
  let groups := Text.splitAt (· == '_') cs
  if groups.all fun group => !group.isEmpty && group.all isDigit then some groups.flatten else none

/-- Whether some characters begin with a minus sign. -/
def isNegative (cs : List Char) : Bool :=
  cs.head? == some '-'

/-- Whether the digits of a decimal numeral begin with a superfluous zero. -/
def hasLeadingZero (cs : List Char) : Bool :=
  match cs with
  | '0' :: _ :: _ => true
  | _ => false

/-- The digits of an unsigned decimal numeral without a superfluous zero. -/
def whole? (cs : List Char) : Option (List Char) :=
  if hasLeadingZero cs then none else digits? Char.isDigit cs

/-- The value of decimal digits. -/
def decimalValue (digits : List Char) : Nat :=
  (Text.digitsValue? 10 Text.digitValue? 0 digits).getD 0

/-! ## Integers -/

/-- The value of a numeral in a base, if it is a signed integer of 64 bits. -/
def integer? (base : Nat) (digit? : Char → Option Nat) (negative : Bool) (cs : List Char) :
    Option Int := do
  let digits ← digits? (fun c => (digit? c).any (· < base)) cs
  let n ← Text.digitsValue? base digit? 0 digits
  let value : Int := if negative then -n else n
  if -9223372036854775808 ≤ value ∧ value ≤ 9223372036854775807 then some value else none

/-! ## Floats -/

/-- An unsigned decimal number: some units of a power of ten. -/
structure Decimal where
  /-- How many units. -/
  units : Nat
  /-- The power of ten of a unit. -/
  power : Int
deriving DecidableEq, Repr

namespace Decimal

/-- The least number that rounds to infinity: halfway from the greatest finite float of 64 bits to
the power of two above it. -/
def infinite : Nat := Nat.pow 2 1024 - Nat.pow 2 970

/-- Whether a number rounds to infinity. Only one with as many places before the point as `infinite`
has to be compared with it. -/
def overflows (d : Decimal) : Bool :=
  let places := (Nat.toDigits 10 d.units).length + d.power
  if d.units = 0 ∨ places < 309 then false
  else if 309 < places then true
  else if 0 ≤ d.power then infinite ≤ d.units * Nat.pow 10 d.power.toNat
  else infinite * Nat.pow 10 (-d.power).toNat ≤ d.units

/-- Reads the part of an unsigned float before its exponent: digits, and digits behind a point. -/
def ofMantissa? (pointed : Bool) (cs : List Char) : Option Decimal :=
  match Text.splitOnce '.' cs with
  | some (front, back) => do
    let front ← whole? front
    let back ← digits? Char.isDigit back
    return ⟨decimalValue (front ++ back), -back.length⟩
  | none => if pointed then none else (whole? cs).map fun digits => ⟨decimalValue digits, 0⟩

/-- Reads an unsigned float, which has a point or an exponent. -/
def ofText? (cs : List Char) : Option Decimal :=
  match Text.splitAt (fun c => c == 'e' || c == 'E') cs with
  | [mantissa] => ofMantissa? true mantissa
  | [mantissa, exponent] => do
    let d ← ofMantissa? false mantissa
    let digits ← digits? Char.isDigit (Text.dropSign exponent)
    let shift : Int := decimalValue digits
    return { d with power := if isNegative exponent then d.power - shift else d.power + shift }
  | _ => none

end Decimal

/-- Whether some characters are a float: a decimal number that is not too great, or infinity or no
number by name. Below zero there is no bound. -/
def isFloat (cs : List Char) : Bool :=
  let unsigned := Text.dropSign cs
  unsigned == ['i', 'n', 'f'] || unsigned == ['n', 'a', 'n'] ||
    (Decimal.ofText? unsigned).any fun d => isNegative cs || !d.overflows

end Wiring.Settings.Toml
