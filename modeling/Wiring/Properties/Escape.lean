import Wiring.Text.Integer

/-!
# Properties · Escapes

How a key or a value is written in a property list and read back. `escapeKey` and `escapeValue`
write; `unescape` reads either. Reading accepts more spellings than writing uses: `\u` with a code
point, and any escaped character for itself.
-/

namespace Wiring.Properties

/-! ## Writing -/

/-- The written form of one character; `spaces` says whether a space is escaped. -/
def escapeChar (spaces : Bool) (c : Char) : List Char :=
  if c = '\\' then ['\\', '\\']
  else if c = '\t' then ['\\', 't']
  else if c = '\n' then ['\\', 'n']
  else if c = '\r' then ['\\', 'r']
  else if c = '\x0c' then ['\\', 'f']
  else if c = ' ' then if spaces then ['\\', ' '] else [' ']
  else if c = '=' ∨ c = ':' ∨ c = '#' ∨ c = '!' then ['\\', c]
  else [c]

/-- A key as it is written: every space is escaped. -/
def escapeKey (key : List Char) : List Char :=
  key.flatMap (escapeChar true)

/-- A value as it is written: only a space at its start is escaped. -/
def escapeValue : List Char → List Char
  | [] => []
  | c :: cs => escapeChar true c ++ cs.flatMap (escapeChar false)

/-! ## Reading -/

/-- The character that an escaped letter stands for. -/
def unescapeChar (c : Char) : Char :=
  if c = 't' then '\t'
  else if c = 'n' then '\n'
  else if c = 'r' then '\r'
  else if c = 'f' then '\x0c'
  else c

/-- The character with the code point that four characters spell. -/
def readCodePoint? (digits : List Char) : Option Char :=
  (Text.readHex4? digits).bind Text.scalar?

/-- Reads a written key or value. A bad `\u` escape is an error with the characters that follow the
letter, up to four; a backslash at the very end is dropped. -/
def unescape : List Char → Except (List Char) (List Char)
  | [] => .ok []
  | ['\\'] => .ok []
  | '\\' :: 'u' :: w :: x :: y :: z :: cs =>
    match readCodePoint? [w, x, y, z] with
    | some c => (unescape cs).map (c :: ·)
    | none => .error [w, x, y, z]
  | '\\' :: 'u' :: cs => .error cs
  | '\\' :: c :: cs => (unescape cs).map (unescapeChar c :: ·)
  | c :: cs => (unescape cs).map (c :: ·)

end Wiring.Properties
