import Wiring.Text.Split

/-!
# Text · Numerals of floats

The texts that are floats wherever a value without quotes may be one: an optional sign, digits with
or without a point and perhaps an exponent, or infinity and no number by name.
-/

namespace Wiring.Text

/-- The characters without a sign in front. -/
def dropSign : List Char → List Char
  | '+' :: cs => cs
  | '-' :: cs => cs
  | cs => cs

/-- Whether some characters are decimal digits, at least one. -/
def isDigits (cs : List Char) : Bool :=
  !cs.isEmpty && cs.all Char.isDigit

/-- Whether some characters are digits with a point anywhere among them or with none. -/
def isMantissa (cs : List Char) : Bool :=
  match splitOnce '.' cs with
  | some (front, back) => isDigits (front ++ back)
  | none => isDigits cs

/-- The names of floats that have no digits, in small letters. -/
def floatNames : List (List Char) :=
  ["inf".toList, "infinity".toList, "nan".toList]

/-- Whether some characters are a float. -/
def isFloat (cs : List Char) : Bool :=
  let unsigned := dropSign cs
  floatNames.contains (unsigned.map Char.toLower) ||
    match splitAt (fun c => c == 'e' || c == 'E') unsigned with
    | [mantissa] => isMantissa mantissa
    | [mantissa, exponent] => isMantissa mantissa && isDigits (dropSign exponent)
    | _ => false

end Wiring.Text
