import Wiring.Settings.Value

/-!
# Settings · TOML · Trees

The tree that a TOML file builds up. Every table remembers how it came about, since that decides
whether it may still be extended: a table with a header of its own by no dotted key, a table made by
a dotted key by no header, and a value in braces or brackets by nothing. Of tables in a row the
latest may be passed by a dotted key, but gets no value from one.
-/

namespace Wiring.Settings.Toml

/-- How a table came about. -/
inductive Origin
  /-- On the way to the table of a header. -/
  | implied
  /-- Through a dotted key. -/
  | dotted
  /-- Through a header of its own. -/
  | header
deriving DecidableEq, Repr

/-- What a key of a file stands for. -/
inductive Node
  /-- A finished value. -/
  | leaf (value : Value)
  /-- A table that may still grow. -/
  | table (origin : Origin) (fields : List (String × Node))
  /-- Tables in a row, the latest last, with the fields of each. -/
  | tables (elements : List (List (String × Node)))

/-- The fields of a table. -/
abbrev Fields := List (String × Node)

/-- Changes the table at a path of keys below a table, making the tables on the way. `viaDots` says
that the path is a dotted key. The change sees how the table came about. -/
def updateAt (viaDots : Bool) (origin : Origin) (fields : Fields) (path : List String)
    (change : Origin → Fields → Option Fields) : Option Fields :=
  match path with
  | [] => change origin fields
  | key :: rest =>
    match fields.lookup key with
    | none => do
      let made := if viaDots then Origin.dotted else Origin.implied
      let inner ← updateAt viaDots made [] rest change
      return upsert key (.table made inner) fields
    | some (.table inside inner) => do
      if viaDots && inside == .header then none
      let inner ← updateAt viaDots inside inner rest change
      return upsert key (.table inside inner) fields
    | some (.tables elements) => do
      let last ← elements.getLast?
      let last ← updateAt viaDots .header last rest change
      return upsert key (.tables (elements.dropLast ++ [last])) fields
    | some (.leaf _) => none

/-- Adds a value under a dotted key below a table. -/
def addLeaf (origin : Origin) (fields : Fields) (path : List String) (value : Value) :
    Option Fields := do
  let key ← path.getLast?
  let way := path.dropLast
  updateAt true origin fields way fun inside inner =>
    if !way.isEmpty && inside != .dotted then none
    else if (inner.lookup key).isSome then none
    else some (inner ++ [(key, .leaf value)])

/-- Opens the table of a header. -/
def openTable (fields : Fields) (path : List String) : Option Fields := do
  let key ← path.getLast?
  updateAt false .header fields path.dropLast fun _ inner =>
    match inner.lookup key with
    | none => some (inner ++ [(key, .table .header [])])
    | some (.table .implied fields) => some (upsert key (.table .header fields) inner)
    | some _ => none

/-- Opens one more of the tables in a row. -/
def openElement (fields : Fields) (path : List String) : Option Fields := do
  let key ← path.getLast?
  updateAt false .header fields path.dropLast fun _ inner =>
    match inner.lookup key with
    | none => some (inner ++ [(key, .tables [[]])])
    | some (.tables elements) => some (upsert key (.tables (elements ++ [[]])) inner)
    | some _ => none

mutual

/-- The value that a node holds. -/
def Node.value (node : Node) : Value :=
  match node with
  | .leaf value => value
  | .table _ fields => .table (valueFields fields)
  | .tables elements => .list (elementValues elements)

/-- The values that the fields of a table hold. -/
def valueFields (fields : Fields) : List (String × Value) :=
  match fields with
  | [] => []
  | (key, node) :: rest => (key, node.value) :: valueFields rest

/-- The values of tables in a row. -/
def elementValues (elements : List Fields) : List Value :=
  match elements with
  | [] => []
  | fields :: rest => .table (valueFields fields) :: elementValues rest

end

end Wiring.Settings.Toml
