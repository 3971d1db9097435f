import Wiring.Settings.Toml.Scalar
import Wiring.Settings.Toml.Tree

/-!
# Settings · TOML · Documents

Reading a whole TOML file as a settings tree. A file is a sequence of lines, each with an entry, a
header or nothing, and perhaps a comment.
-/

namespace Wiring.Settings.Toml

/-! ## Values -/

/-- Drops blanks and comments with the line ends behind them, as many as the fuel allows. -/
def skipFillerLines (fuel : Nat) (cs : List Char) : Option (List Char) :=
  match fuel with
  | 0 => some cs
  | fuel + 1 => do
    let after ← skipComment (skipSpace cs)
    match lineEnd? after with
    | some rest => skipFillerLines fuel rest
    | none => some after

/-- Drops blanks, line ends and comments, as they may stand within brackets. -/
def skipFiller (cs : List Char) : Option (List Char) :=
  skipFillerLines (cs.length + 1) cs

mutual

/-- Reads a value. `room` says how many more brackets and braces may be opened. -/
def readValue (fuel room : Nat) (cs : List Char) : Option (Value × List Char) :=
  match fuel with
  | 0 => none
  | fuel + 1 =>
    match cs, room with
    | '"' :: _, _ | '\'' :: _, _ =>
      (readText cs).map fun (text, rest) => (.text (.ofList text), rest)
    | '[' :: rest, room + 1 =>
      (readItems fuel room rest).map fun (items, rest) => (.list items, rest)
    | '\x7b' :: rest, room + 1 =>
      match skipSpace rest with
      | '\x7d' :: rest => some (.table [], rest)
      | rest => (readEntries fuel room [] rest).map fun (fields, rest) =>
          (.table (valueFields fields), rest)
    | _, _ => readPlain cs

/-- Reads the items of a list whose opening bracket has been read. -/
def readItems (fuel room : Nat) (cs : List Char) : Option (List Value × List Char) :=
  match fuel with
  | 0 => none
  | fuel + 1 => do
    let cs ← skipFiller cs
    match cs with
    | ']' :: rest => return ([], rest)
    | _ =>
      let (value, rest) ← readValue fuel room cs
      let rest ← skipFiller rest
      match rest with
      | ',' :: rest =>
        let (values, rest) ← readItems fuel room rest
        return (value :: values, rest)
      | ']' :: rest => return ([value], rest)
      | _ => none

/-- Reads the entries of a table in braces, of which at least one must follow. -/
def readEntries (fuel room : Nat) (fields : Fields) (cs : List Char) :
    Option (Fields × List Char) :=
  match fuel with
  | 0 => none
  | fuel + 1 => do
    let (path, rest) ← readKey cs
    match rest with
    | '=' :: rest =>
      let (value, rest) ← readValue fuel room (skipSpace rest)
      let fields ← addLeaf .header fields path value
      match skipSpace rest with
      | ',' :: rest => readEntries fuel room fields rest
      | '\x7d' :: rest => return (fields, rest)
      | _ => none
    | _ => none

end

/-! ## Lines -/

/-- A file as far as it has been read: its tree, and the path of the table that entries go to. -/
structure Document where
  /-- The fields of the outermost table. -/
  fields : Fields
  /-- The table of the last header. -/
  current : List String

/-- The document without an entry. -/
def Document.empty : Document := ⟨[], []⟩

/-- Adds an entry to the current table. -/
def Document.add (doc : Document) (path : List String) (value : Value) : Option Document := do
  let fields ← updateAt false .header doc.fields doc.current fun origin fields =>
    addLeaf origin fields path value
  return { doc with fields }

/-- Reads a header, after its opening bracket. -/
def Document.readHeader (doc : Document) (cs : List Char) : Option (Document × List Char) :=
  match cs with
  | '[' :: rest => do
    let (path, rest) ← readKey rest
    match rest with
    | ']' :: ']' :: rest => return (⟨← openElement doc.fields path, path⟩, rest)
    | _ => none
  | _ => do
    let (path, rest) ← readKey cs
    match rest with
    | ']' :: rest => return (⟨← openTable doc.fields path, path⟩, rest)
    | _ => none

/-- Reads an entry. -/
def Document.readEntry (doc : Document) (cs : List Char) : Option (Document × List Char) := do
  let (path, rest) ← readKey cs
  match rest with
  | '=' :: rest =>
    let start := skipSpace rest
    let (value, rest) ← readValue (2 * start.length + 2) (depthLimit - 1) start
    return (← doc.add path value, rest)
  | _ => none

/-- Reads what a line holds, less blanks and a comment at its end. -/
def Document.readLine (doc : Document) (cs : List Char) : Option (Document × List Char) :=
  match cs with
  | [] | '\n' :: _ | '\r' :: _ | '#' :: _ => some (doc, cs)
  | '[' :: rest => doc.readHeader rest
  | _ => doc.readEntry cs

/-- Reads all lines. -/
def Document.readLines (fuel : Nat) (doc : Document) (cs : List Char) : Option Document :=
  match fuel with
  | 0 => none
  | fuel + 1 => do
    let (doc, rest) ← doc.readLine (skipSpace cs)
    let rest ← skipComment (skipSpace rest)
    match rest with
    | [] => return doc
    | _ => doc.readLines fuel (← lineEnd? rest)

/-- The settings tree of a TOML file; nothing where the file is malformed. -/
def parse? (text : String) : Option Value :=
  let cs := match text.toList with
    | '\ufeff' :: cs => cs
    | cs => cs
  (Document.empty.readLines (cs.length + 1) cs).map fun doc => .table (valueFields doc.fields)

end Wiring.Settings.Toml
