import Wiring.Text.Blank
import Wiring.Text.Split

/-!
# Properties · Logical lines

From the lines of a text to the entries written on them. Blanks at the start of a line are dropped.
A line of blanks and a line whose first character is `#` or `!` hold nothing. A line that ends in an
odd number of backslashes goes on in the next line, whatever that line holds; the last backslash is
dropped. Within such a logical line the key ends at the first separator that no backslash escapes.
-/

namespace Wiring.Properties

/-! ## Continuation -/

/-- The number of backslashes at the end. -/
def trailingBackslashes (cs : List Char) : Nat :=
  (cs.reverse.takeWhile (· == '\\')).length

/-- Whether a line goes on in the next one. -/
def continues (cs : List Char) : Bool :=
  trailingBackslashes cs % 2 == 1

/-- Whether a line without its leading blanks holds nothing. -/
def isSkipped : List Char → Bool
  | [] => true
  | c :: _ => c == '#' || c == '!'

/-- A line together with the lines it goes on in. -/
structure LogicalLine where
  /-- The number of its first line, counted from one. -/
  number : Nat
  /-- The joined text. -/
  text : List Char
deriving DecidableEq, Repr

/-- A logical line extended by the text of one more line. -/
def LogicalLine.extend (line : LogicalLine) (text : List Char) : LogicalLine :=
  { line with text := line.text ++ text }

/-- The logical lines of the lines from number `n` on. `pending` is a logical line that goes on in
the first of them. Whether a line goes on is asked of the line alone; to ask it of all that is
joined so far says the same, since a line that went on has lost its last backslash. -/
def logicalLinesFrom (n : Nat) (pending : Option LogicalLine) :
    List (List Char) → List LogicalLine
  | [] => pending.toList
  | line :: rest =>
    let body := Text.trimStart line
    if pending.isNone && isSkipped body then logicalLinesFrom (n + 1) none rest
    else
      let start := pending.getD ⟨n, []⟩
      if continues body then logicalLinesFrom (n + 1) (some (start.extend body.dropLast)) rest
      else start.extend body :: logicalLinesFrom (n + 1) none rest

/-- The logical lines of a text. -/
def logicalLines (cs : List Char) : List LogicalLine :=
  logicalLinesFrom 1 none (Text.lines cs)

/-! ## Key and value -/

/-- The characters between key and value that carry no meaning of their own. -/
def isGap (c : Char) : Bool :=
  c == ' ' || c == '\t' || c == '\x0c'

/-- The two characters of which one may stand between key and value. -/
def isAssign (c : Char) : Bool :=
  c == '=' || c == ':'

/-- The text up to the first separator that no backslash escapes, and the text from there on. -/
def splitKey : List Char → List Char × List Char
  | [] => ([], [])
  | ['\\'] => (['\\'], [])
  | '\\' :: c :: cs => let parts := splitKey cs; ('\\' :: c :: parts.1, parts.2)
  | c :: cs =>
    if isAssign c || isGap c then ([], c :: cs)
    else let parts := splitKey cs; (c :: parts.1, parts.2)

/-- What follows the separators: gaps, at most one assignment character, and gaps again. -/
def skipSeparators (cs : List Char) : List Char :=
  match cs.dropWhile isGap with
  | c :: rest => if isAssign c then rest.dropWhile isGap else c :: rest
  | [] => []

/-- The written key and the written value of a logical line. -/
def splitEntry (cs : List Char) : List Char × List Char :=
  let parts := splitKey cs
  (parts.1, skipSeparators parts.2)

end Wiring.Properties
