import Wiring.Upsert

/-!
# Settings · Values

The tree in which settings are gathered before they are decoded. Sources are layered by `merge`:
tables are joined key by key, any other value of the later source replaces what the earlier one has.
-/

namespace Wiring

/-- A settings tree. A float is kept as a kind only, since no setting is a float. -/
inductive Value
  /-- No value. -/
  | null
  /-- A truth value. -/
  | bool (b : Bool)
  /-- An integer. -/
  | integer (n : Int)
  /-- A number with a fraction. -/
  | float
  /-- A single character. -/
  | char (c : Char)
  /-- A text. -/
  | text (s : String)
  /-- Values in a row. -/
  | list (items : List Value)
  /-- Values by key. -/
  | table (fields : List (String × Value))
deriving Repr, Inhabited

namespace Value

/-! ## Fields -/

/-- The value of a key in a table. -/
def field? (value : Value) (key : String) : Option Value :=
  match value with
  | table fields => fields.lookup key
  | _ => none

/-- The value at a path of keys. -/
def get? (value : Value) (path : List String) : Option Value :=
  path.foldlM field? value

/-! ## Layers -/

mutual

/-- The earlier value with the later one on top. -/
def merge (earlier later : Value) : Value :=
  match earlier, later with
  | table below, table fields => table (mergeFields below fields)
  | _, value => value
termination_by sizeOf later

/-- Fields with later fields on top. -/
def mergeFields (below fields : List (String × Value)) : List (String × Value) :=
  match fields with
  | [] => below
  | (key, value) :: rest =>
    let joined := match below.lookup key with
      | some old => merge old value
      | none => value
    mergeFields (upsert key joined below) rest
termination_by sizeOf fields

end

/-- A value at a path of keys. The path ends at the first empty key. -/
def nest (path : List String) (value : Value) : Value :=
  match path with
  | [] => value
  | key :: rest => if key.isEmpty then value else table [(key, nest rest value)]

end Value

end Wiring
