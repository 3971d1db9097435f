import Mathlib.Data.List.Basic
import Wiring.Text.Split

/-!
# Text · Laws of lines

A text that ends in a line feed has all its lines behind it: the lines of what follows come after
them and neither part changes the other (`lines_append`). In particular a line feed ends the line
before it (`lines_cons`), and lines that hold no line end are read as they are
(`lines_flatMap_append`). A carriage return at the end of a line belongs to the end
(`dropReturn_append_singleton`).
-/

namespace Wiring.Text

/-! ## The end of a line -/

/-- A line that does not end in a carriage return stays as it is. -/
theorem dropReturn_of_getLast? {line : List Char} (h : line.getLast? ≠ some '\r') :
    dropReturn line = line :=
  if_neg h

/-- A line without a carriage return stays as it is. -/
theorem dropReturn_of_not_mem {line : List Char} (h : '\r' ∉ line) : dropReturn line = line :=
  dropReturn_of_getLast? fun hlast => h (List.mem_of_getLast? hlast)

/-- Only the end of a line counts. -/
theorem dropReturn_append {front back : List Char} (h : back ≠ []) :
    dropReturn (front ++ back) = front ++ dropReturn back := by
  have hlast : (front ++ back).getLast? = back.getLast? := by
    rw [List.getLast?_append, List.getLast?_eq_some_getLast h, Option.some_or]
  rw [dropReturn, dropReturn, hlast]
  split
  · rw [List.dropLast_append_of_ne_nil h]
  · rfl

/-- A carriage return at the end is dropped. -/
theorem dropReturn_append_singleton (line : List Char) : dropReturn (line ++ ['\r']) = line := by
  simp [dropReturn]

/-- What is left without the carriage return is the front of the line. -/
theorem dropReturn_isPrefix (line : List Char) : dropReturn line <+: line := by
  rw [dropReturn]
  split
  · exact List.dropLast_prefix line
  · exact List.prefix_refl line

/-! ## Lines one after the other -/

/-- What is split at a separator is split on either side of it. -/
theorem splitAt_append_sep {p : Char → Bool} {sep : Char} (hsep : p sep = true)
    (front rest : List Char) :
    splitAt p (front ++ sep :: rest) = splitAt p front ++ splitAt p rest := by
  induction front with
  | nil => simp [splitAt, hsep]
  | cons c front ih =>
    rw [List.cons_append, splitAt, splitAt, ih]
    split
    · rfl
    · cases hpieces : splitAt p front with
      | nil => exact absurd hpieces (splitAt_ne_nil p front)
      | cons piece pieces => rfl

/-- What is joined by a separator is split where its parts are. -/
theorem splitAt_intercalate_eq_flatMap (sep : Char) {parts : List (List Char)} (h : parts ≠ []) :
    splitAt (· == sep) ([sep].intercalate parts) = parts.flatMap (splitAt (· == sep)) := by
  induction parts with
  | nil => exact absurd rfl h
  | cons first parts ih =>
    cases parts with
    | nil => simp [List.intercalate]
    | cons second rest =>
      have hsplit : splitAt (· == sep) (first ++ sep :: [sep].intercalate (second :: rest)) =
          splitAt (· == sep) first ++ splitAt (· == sep) ([sep].intercalate (second :: rest)) :=
        splitAt_append_sep (p := (· == sep)) (beq_self_eq_true sep) first _
      rw [intercalate_cons_cons, hsplit, ih (List.cons_ne_nil second rest),
        List.flatMap_cons (x := first)]

/-- All pieces but those at the end are lines that end. -/
theorem linesOfPieces_append {pieces : List (List Char)} (h : pieces ≠ [])
    (front : List (List Char)) :
    linesOfPieces (front ++ pieces) = front.map dropReturn ++ linesOfPieces pieces := by
  induction front with
  | nil => rfl
  | cons piece front ih =>
    obtain ⟨next, rest, hrest⟩ :=
      List.exists_cons_of_ne_nil (List.append_ne_nil_of_right_ne_nil front h)
    rw [List.cons_append, hrest, linesOfPieces, ← hrest, ih, List.map_cons, List.cons_append]
    exact List.cons_ne_nil next rest

/-- The pieces before a line feed are lines. -/
theorem lines_append_feed (front rest : List Char) :
    lines (front ++ '\n' :: rest) = (splitAt (· == '\n') front).map dropReturn ++ lines rest := by
  have hsplit : splitAt (· == '\n') (front ++ '\n' :: rest) =
      splitAt (· == '\n') front ++ splitAt (· == '\n') rest :=
    splitAt_append_sep (by rfl) front rest
  rw [lines, hsplit, linesOfPieces_append (splitAt_ne_nil _ _), lines]

/-- **Lines one after the other**: behind a text that is empty or ends in a line feed the reading of
lines begins afresh. -/
theorem lines_append {front : List Char} (h : front = [] ∨ front.getLast? = some '\n')
    (rest : List Char) : lines (front ++ rest) = lines front ++ lines rest := by
  rcases h with rfl | hlast
  · rfl
  · have hfront : front.dropLast ++ ['\n'] = front := List.dropLast_append_getLast? _ hlast
    have hnone : lines [] = [] := rfl
    rw [← hfront, List.append_assoc, List.singleton_append, lines_append_feed, lines_append_feed,
      hnone, List.append_nil]

/-- **A line feed ends the line** before it. -/
theorem lines_cons {line : List Char} (h : '\n' ∉ line) (rest : List Char) :
    lines (line ++ '\n' :: rest) = dropReturn line :: lines rest := by
  have hnone : ∀ c ∈ line, (c == '\n') = false := fun c hc =>
    beq_eq_false_iff_ne.2 fun heq => h (heq ▸ hc)
  rw [lines_append_feed, splitAt_eq_singleton hnone]
  rfl

/-- **Lines that hold no line end** are read as they are. -/
theorem lines_flatMap_append {lines' : List (List Char)}
    (h : ∀ line ∈ lines', '\n' ∉ line ∧ '\r' ∉ line) :
    lines (lines'.flatMap (· ++ ['\n'])) = lines' := by
  induction lines' with
  | nil => rfl
  | cons line lines' ih =>
    obtain ⟨⟨hfeed, hreturn⟩, hrest⟩ := List.forall_mem_cons.1 h
    rw [List.flatMap_cons, List.append_assoc, List.singleton_append, lines_cons hfeed,
      dropReturn_of_not_mem hreturn, ih hrest]

end Wiring.Text
