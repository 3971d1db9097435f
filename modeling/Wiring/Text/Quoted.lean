import Wiring.Text.Printable

/-!
# Text · Quoted text

The quoted form of a text in a debugging description: double quotes around it, short escapes for the
quote, the backslash, the tab, the line ends and the null character, and `\u` with the code point in
braces for every other character that is not plain.
-/

namespace Wiring.Text

/-- The quoted form of one character. -/
def quoteChar (c : Char) : List Char :=
  if c = '\x00' then ['\\', '0']
  else if c = '\t' then ['\\', 't']
  else if c = '\n' then ['\\', 'n']
  else if c = '\r' then ['\\', 'r']
  else if c = '"' then ['\\', '"']
  else if c = '\\' then ['\\', '\\']
  else if isPlain c then [c]
  else ['\\', 'u', '\x7b'] ++ Nat.toDigits 16 c.toNat ++ ['\x7d']

/-- A text in double quotes with its special characters escaped. -/
def quoted (text : String) : String :=
  .ofList ('"' :: text.toList.flatMap quoteChar ++ ['"'])

end Wiring.Text
