import Wiring.Logging.Pattern
import Wiring.Text.Numeral

/-!
# Logging · Conditions

A condition on a field of a span: that the field is there, or that it has a certain value. The value
is a truth value or a number, or else a pattern, which has to be well formed.
-/

namespace Wiring

/-- A condition on a field of a span. -/
structure Condition where
  /-- The name of the field. -/
  field : String
  /-- The value that the field must have, if any will not do. -/
  value : Option String
deriving DecidableEq, Repr

namespace Condition

/-- Whether some characters are the value of a condition. The words for truth values are patterns
as well. -/
def isValue (cs : List Char) : Bool :=
  Text.isFloat cs || Pattern.isPattern cs

/-- The condition that some characters spell. The value ends at a second equals sign, and what
follows does not count. -/
def ofText? (cs : List Char) : Option Condition :=
  match Text.splitAt (· == '=') cs with
  | [] => none
  | [field] => some ⟨.ofList field, none⟩
  | field :: value :: _ =>
    if isValue value then some ⟨.ofList field, some (.ofList value)⟩ else none

end Condition

end Wiring
