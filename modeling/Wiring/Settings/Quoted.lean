import Wiring.Text.Integer

/-!
# Settings · Quoted texts

Texts in double quotes, as settings files and environment variables have them. No control but the
tab may stand in them as it is. Their escapes are short ones for some controls, the quote and the
backslash, and code points of four or eight hexadecimal digits. `readQuoted` reads a text up to its
closing quote.
-/

namespace Wiring.Settings

/-- Whether a character may stand between quotes as it is: no control but the tab. -/
def isAllowed (c : Char) : Bool :=
  c == '\t' || (0x20 ≤ c.toNat && c.toNat != 0x7F)

/-- The character that a single escaped letter stands for. -/
def shortEscape? (c : Char) : Option Char :=
  if c = '"' then some '"'
  else if c = '\\' then some '\\'
  else if c = 'b' then some '\x08'
  else if c = 'f' then some '\x0c'
  else if c = 'n' then some '\n'
  else if c = 'r' then some '\r'
  else if c = 't' then some '\t'
  else none

/-- The character whose code point some hexadecimal digits spell. -/
def codePoint? (digits : List Char) : Option Char :=
  (Text.digitsValue? 16 Text.hexValue? 0 digits).bind Text.scalar?

/-- Reads what follows a backslash: the character and the rest. -/
def readEscape : List Char → Option (Char × List Char)
  | 'u' :: a :: b :: c :: d :: rest => (codePoint? [a, b, c, d]).map fun ch => (ch, rest)
  | 'U' :: a :: b :: c :: d :: e :: f :: g :: h :: rest =>
    (codePoint? [a, b, c, d, e, f, g, h]).map fun ch => (ch, rest)
  | c :: rest => (shortEscape? c).map fun ch => (ch, rest)
  | [] => none

/-- An escape that is read takes at least one character. -/
theorem length_of_readEscape {cs : List Char} {c : Char} {rest : List Char}
    (h : readEscape cs = some (c, rest)) : rest.length < cs.length := by
  unfold readEscape at h
  split at h <;> simp only [Option.map_eq_some_iff, Prod.mk.injEq, reduceCtorEq] at h
  all_goals
    obtain ⟨_, _, _, rfl⟩ := h
    simp only [List.length_cons]
    omega

/-- Reads a text whose opening quote has been read: the text and what follows the closing quote. -/
def readQuoted (cs : List Char) : Option (List Char × List Char) :=
  match cs with
  | [] => none
  | '"' :: rest => some ([], rest)
  | '\\' :: rest =>
    match h : readEscape rest with
    | none => none
    | some (c, after) =>
      have : after.length < rest.length := length_of_readEscape h
      (readQuoted after).map fun (text, rest) => (c :: text, rest)
  | c :: rest =>
    if isAllowed c then (readQuoted rest).map fun (text, rest) => (c :: text, rest) else none
termination_by cs.length

end Wiring.Settings
