import Wiring.Proofs.Properties.Failures
import Wiring.Proofs.Properties.Joined
import Wiring.Proofs.Text.Lines
import Wiring.Proofs.Text.Trim

/-!
# Properties · Breaking a line

A line may be broken anywhere behind a backslash that is added there: what is read stays the same,
except that lines further down are counted one higher. Two readings that agree up to that are
`AlikeUpToLine`. The reader is in the same state behind both forms of the line (`stepLine_broken`),
and what it makes of the lines that follow differs in numbers only (`near_logicalLinesFrom`). Main
statement: `parse_broken`. A break costs no entry, adds none and changes none, and a text that
cannot be read fails over the same escape.
-/

namespace Wiring.Properties

/-! ## Logical lines that begin one line apart -/

/-- Whether two logical lines have the same text and the second one begins on the same line as the
first or on the next one. -/
structure LogicalLine.Near (a b : LogicalLine) : Prop where
  /-- The texts agree. -/
  text : b.text = a.text
  /-- The numbers differ by one at most. -/
  number : b.number = a.number ∨ b.number = a.number + 1

open LogicalLine (Near)

variable {n : Nat} {pending pending' : Option LogicalLine}

/-- A logical line is near itself. -/
theorem LogicalLine.Near.refl (line : LogicalLine) : line.Near line :=
  ⟨rfl, .inl rfl⟩

/-- Logical lines stay near each other if the same text is added to both. -/
theorem LogicalLine.Near.extend {a b : LogicalLine} (h : a.Near b) (text : List Char) :
    (a.extend text).Near (b.extend text) :=
  ⟨congrArg (· ++ text) h.text, h.number⟩

/-- One line, counted one higher. -/
theorem near_stepLine (h : Option.Rel Near pending pending') (line : List Char) :
    Option.Rel Near (stepLine n pending line).1 (stepLine (n + 1) pending' line).1 ∧
      Option.Rel Near (stepLine n pending line).2 (stepLine (n + 1) pending' line).2 := by
  have hstart : (pending.getD ⟨n, []⟩).Near (pending'.getD ⟨n + 1, []⟩) := by
    cases h with
    | none => exact ⟨rfl, .inr rfl⟩
    | some hnear => exact hnear
  have hsome : pending'.isSome = pending.isSome := by
    cases h <;> rfl
  simp only [stepLine, hsome]
  split
  · split
    · exact ⟨.none, .some (hstart.extend _)⟩
    · exact ⟨.some (hstart.extend _), .none⟩
  · exact ⟨.none, .none⟩

/-- **Lines counted one higher** make the same logical lines. -/
theorem near_logicalLinesFrom (h : Option.Rel Near pending pending') (lines : List (List Char)) :
    List.Forall₂ Near (logicalLinesFrom n pending lines)
      (logicalLinesFrom (n + 1) pending' lines) := by
  have htoList {a b : Option LogicalLine} (hrel : Option.Rel Near a b) :
      List.Forall₂ Near a.toList b.toList := by
    cases hrel with
    | none => exact .nil
    | some hnear => exact .cons hnear .nil
  induction lines generalizing n pending pending' with
  | nil => exact htoList h
  | cons line lines ih =>
    obtain ⟨hfinished, hpending⟩ := near_stepLine h line
    rw [logicalLinesFrom_cons, logicalLinesFrom_cons]
    exact List.rel_append (htoList hfinished) (ih hpending)

/-! ## The broken line -/

/-- A line that does not go on does not do so without the blanks at its start either. -/
theorem continues_trimStart {line : List Char} (h : continues line = false) :
    continues (Text.trimStart line) = false := by
  have hblank : Text.isBlank '\\' = false := by decide
  rw [Text.trimStart, continues_dropWhile hblank, h]

/-- What holds something is not blank, and holds something with more at its end. -/
theorem isPart_append {line : List Char} (h : isPart false line = true) :
    Text.trimStart line ≠ [] ∧ ∀ rest, isPart false (line ++ rest) = true := by
  have hskipped : isSkipped (Text.trimStart line) = false := by simpa [isPart] using h
  obtain ⟨c, body, hbody⟩ : ∃ c body, Text.trimStart line = c :: body := by
    cases hline : Text.trimStart line with
    | nil => rw [hline] at hskipped; cases hskipped
    | cons c body => exact ⟨c, body, rfl⟩
  have hne : Text.trimStart line ≠ [] := by simp [hbody]
  refine ⟨hne, fun rest => ?_⟩
  rw [isPart, Text.trimStart_append hne, hbody]
  rw [hbody] at hskipped
  exact congrArg not hskipped

/-- **Behind a broken line** the reader is where it would be behind the whole one. -/
theorem stepLine_broken {first second line : List Char} (hpart : isPart false first = true)
    (hfirst : continues first = false) (hline : Text.trimStart line = second) (n m : Nat) :
    stepLine n none (first ++ ['\\']) = (none, some ⟨n, Text.trimStart first⟩) ∧
      stepLine m (some ⟨n, Text.trimStart first⟩) line = stepLine n none (first ++ second) := by
  obtain ⟨hne, hpart⟩ := isPart_append hpart
  have hfirst := continues_trimStart hfirst
  constructor
  · have hopen : continues (Text.trimStart (first ++ ['\\'])) = true := by
      rw [Text.trimStart_append hne, continues_append_backslash, hfirst]
      rfl
    rw [stepLine, Option.isSome_none, if_pos (hpart _), if_pos hopen, Text.trimStart_append hne,
      List.dropLast_concat]
    rfl
  · have hopen : continues (Text.trimStart (first ++ second)) = continues second := by
      rw [Text.trimStart_append hne, continues_append hfirst]
    rw [stepLine, stepLine, Option.isSome_some, Option.isSome_none, if_pos (hpart _), hopen,
      Text.trimStart_append hne, hline, if_pos (show isPart true line = true from rfl)]
    split
    · next hcontinues =>
      -- what goes on ends in a backslash, which is the last character of the whole line too
      have hsecond : second ≠ [] := by rintro rfl; cases hcontinues
      rw [List.dropLast_append_of_ne_nil hsecond]
      rfl
    · rfl

/-- **Breaking a line** leaves the logical lines as they are, up to their numbers. -/
theorem near_broken {first second line : List Char} (hpart : isPart false first = true)
    (hfirst : continues first = false) (hline : Text.trimStart line = second) (n : Nat)
    (rest : List (List Char)) :
    List.Forall₂ Near (logicalLinesFrom n none ((first ++ second) :: rest))
      (logicalLinesFrom n none ((first ++ ['\\']) :: line :: rest)) := by
  obtain ⟨hopen, hclose⟩ := stepLine_broken hpart hfirst hline n (n + 1)
  have hrefl (line : Option LogicalLine) : Option.Rel Near line line := by
    cases line with
    | none => exact .none
    | some line => exact .some (.refl line)
  rw [logicalLinesFrom_cons, logicalLinesFrom_cons, hopen, logicalLinesFrom_cons, hclose]
  exact List.rel_append (List.forall₂_same.2 fun line _ => .refl line)
    (near_logicalLinesFrom (hrefl _) rest)

/-! ## Readings that agree but for a line number -/

/-- Whether two readings yield the same, or fail over the same characters on lines at most one
apart. -/
def AlikeUpToLine {α : Type} (resource : String) (reading reading' : Except SyntaxError α) : Prop :=
  (∃ a, reading = .ok a ∧ reading' = .ok a) ∨
    ∃ number number' digits, reading = .error (.malformedEscape number digits resource) ∧
      reading' = .error (.malformedEscape number' digits resource) ∧
      (number' = number ∨ number' = number + 1)

namespace AlikeUpToLine

variable {α β : Type} {resource : String} {reading reading' : Except SyntaxError α}

/-- Readings that agree up to a line number do so with their results mapped. -/
theorem map (h : AlikeUpToLine resource reading reading') (g : α → β) :
    AlikeUpToLine resource (reading.map g) (reading'.map g) := by
  rcases h with ⟨a, rfl, rfl⟩ | ⟨number, number', digits, rfl, rfl, hnumber⟩
  · exact .inl ⟨g a, rfl, rfl⟩
  · exact .inr ⟨number, number', digits, rfl, rfl, hnumber⟩

/-- Readings that agree up to a line number do so with agreeing ones behind them. -/
theorem bind (h : AlikeUpToLine resource reading reading') {next next' : α → Except SyntaxError β}
    (hnext : ∀ a, AlikeUpToLine resource (next a) (next' a)) :
    AlikeUpToLine resource (reading >>= next) (reading' >>= next') := by
  rcases h with ⟨a, rfl, rfl⟩ | ⟨number, number', digits, rfl, rfl, hnumber⟩
  · exact hnext a
  · exact .inr ⟨number, number', digits, rfl, rfl, hnumber⟩

/-- Readings of two lists agree up to a line number if those of their items do. -/
theorem mapM {γ : Type} {R : γ → γ → Prop} {f : γ → Except SyntaxError α} {xs ys : List γ}
    (hxs : List.Forall₂ R xs ys) (hf : ∀ x y, R x y → AlikeUpToLine resource (f x) (f y)) :
    AlikeUpToLine resource (xs.mapM f) (ys.mapM f) := by
  induction hxs with
  | nil => exact .inl ⟨[], rfl, rfl⟩
  | cons hxy _ ih =>
    rw [List.mapM_cons, List.mapM_cons]
    exact (hf _ _ hxy).bind fun a => ih.bind fun as => .inl ⟨a :: as, rfl, rfl⟩

end AlikeUpToLine

/-- Near lines are read alike, up to a line number. -/
theorem alike_entryOfLine (resource : String) {a b : LogicalLine} (h : a.Near b) :
    AlikeUpToLine resource (entryOfLine resource a) (entryOfLine resource b) := by
  rw [entryOfLine_eq, entryOfLine_eq, h.text]
  cases entryOfText a.text with
  | error digits => exact .inr ⟨a.number, b.number, .ofList digits, rfl, rfl, h.number⟩
  | ok pair => exact .inl ⟨pair, rfl, rfl⟩

/-! ## The lines of the two texts -/

variable {before first second indent after : List Char}

/-- The lines of a text with a whole line in it. A carriage return before the line feed belongs to
the end of that line. -/
theorem lines_whole (hbefore : before = [] ∨ before.getLast? = some '\n') (hfirst : '\n' ∉ first)
    (hsecond : '\n' ∉ second) (hreturn : second = [] → first.getLast? ≠ some '\r') :
    Text.lines (before ++ (first ++ (second ++ '\n' :: after))) =
      Text.lines before ++ (first ++ Text.dropReturn second) :: Text.lines after := by
  have hline : '\n' ∉ first ++ second := List.not_mem_append hfirst hsecond
  have hdrop : Text.dropReturn (first ++ second) = first ++ Text.dropReturn second := by
    by_cases hnil : second = []
    · rw [hnil, List.append_nil, Text.dropReturn_of_getLast? (hreturn hnil)]
      exact (List.append_nil first).symm
    · exact Text.dropReturn_append hnil
  rw [Text.lines_append hbefore, ← List.append_assoc first, Text.lines_cons hline, hdrop]

/-- The lines of the same text with that line broken. -/
theorem lines_broken {lineEnd : List Char} (hbefore : before = [] ∨ before.getLast? = some '\n')
    (hfirst : '\n' ∉ first) (hindent : '\n' ∉ indent) (hsecond : '\n' ∉ second)
    (hend : lineEnd = ['\n'] ∨ lineEnd = ['\r', '\n']) :
    Text.lines (before ++ (first ++ ('\\' :: (lineEnd ++ (indent ++ (second ++ '\n' :: after)))))) =
      Text.lines before ++ (first ++ ['\\']) :: Text.dropReturn (indent ++ second) ::
        Text.lines after := by
  have hline : '\n' ∉ indent ++ second := List.not_mem_append hindent hsecond
  have hopened (rest : List Char) :
      Text.lines (first ++ ('\\' :: (lineEnd ++ rest))) = (first ++ ['\\']) :: Text.lines rest := by
    rcases hend with rfl | rfl
    · have hmem : '\n' ∉ first ++ ['\\'] := by simp [hfirst]
      have hlast : (first ++ ['\\']).getLast? ≠ some '\r' := by simp
      rw [List.singleton_append, List.append_cons, Text.lines_cons hmem,
        Text.dropReturn_of_getLast? hlast]
    · have hmem : '\n' ∉ first ++ ['\\'] ++ ['\r'] := by simp [hfirst]
      have hsplit : first ++ ('\\' :: (['\r', '\n'] ++ rest)) =
          first ++ ['\\'] ++ ['\r'] ++ '\n' :: rest := by simp
      rw [hsplit, Text.lines_cons hmem, Text.dropReturn_append_singleton]
  rw [Text.lines_append hbefore, hopened, ← List.append_assoc indent, Text.lines_cons hline]

/-- Of the second line of a broken one only what stands behind the indent counts. -/
theorem trimStart_dropReturn_append (hindent : ∀ c ∈ indent, Text.isBlank c = true)
    (hbare : ∀ c ∈ second.head?, Text.isBlank c = false) :
    Text.trimStart (Text.dropReturn (indent ++ second)) = Text.dropReturn second := by
  by_cases hnil : second = []
  · rw [hnil, List.append_nil]
    refine Text.trimStart_eq_nil_iff.2 fun c hc => ?_
    exact hindent c ((Text.dropReturn_isPrefix indent).mem hc)
  · rw [Text.dropReturn_append hnil]
    refine Text.trimStart_append_of_blank hindent fun c hc => hbare c ?_
    obtain ⟨ending, hending⟩ := Text.dropReturn_isPrefix second
    rw [← hending, List.head?_append, hc]
    rfl

/-! ## Main statement -/

/-- **A line may be broken anywhere.** Let a line of a text be made of `first` and `second`, where
`first` holds something and ends in an even number of backslashes, and `second` does not begin with
a blank. Then breaking it between the two, by a backslash, a line end and any blanks, changes
nothing but the number of the line over which the reading may fail. `before` is what stands in front
of the line and does not go on in it. A carriage return is no part of a line that it ends: where
`second` is empty, the line feed follows `first`, which then ends in none. -/
theorem parse_broken {before first second after indent lineEnd : String}
    (hbefore : before = "" ∨ before.toList.getLast? = some '\n')
    (hclosed : leavesOpen (Text.lines before.toList) = false)
    (hfirst : '\n' ∉ first.toList) (hsecond : '\n' ∉ second.toList)
    (hholds : ∃ c ∈ (Text.trimStart first.toList).head?, c ≠ '#' ∧ c ≠ '!')
    (heven : trailingBackslashes first.toList % 2 = 0)
    (hbare : ∀ c ∈ second.toList.head?, Text.isBlank c = false)
    (hreturn : second = "" → first.toList.getLast? ≠ some '\r')
    (hindent : ∀ c ∈ indent.toList, Text.isBlank c = true ∧ c ≠ '\n')
    (hend : lineEnd = "\n" ∨ lineEnd = "\r\n") (resource : String) :
    AlikeUpToLine resource (parse (before ++ first ++ second ++ "\n" ++ after) resource)
      (parse (before ++ first ++ "\\" ++ lineEnd ++ indent ++ second ++ "\n" ++ after)
        resource) := by
  have heven : continues first.toList = false := by
    rw [continues, heven]
    rfl
  have hpart : isPart false first.toList = true := by
    obtain ⟨c, hc, hhash, hbang⟩ := hholds
    obtain ⟨body, hbody⟩ := List.head?_eq_some_iff.1 hc
    simp [isPart, hbody, isSkipped, hhash, hbang]
  have hbefore : before.toList = [] ∨ before.toList.getLast? = some '\n' := by simpa using hbefore
  have hindent_line : '\n' ∉ indent.toList := fun hmem => (hindent _ hmem).2 rfl
  have hlineEnd : lineEnd.toList = ['\n'] ∨ lineEnd.toList = ['\r', '\n'] := by
    rcases hend with rfl | rfl
    · exact .inl rfl
    · exact .inr rfl
  have hlines : Text.lines (before ++ first ++ second ++ "\n" ++ after).toList =
      Text.lines before.toList ++
        (first.toList ++ Text.dropReturn second.toList) :: Text.lines after.toList := by
    simpa using lines_whole hbefore hfirst hsecond (by simpa using hreturn)
  have hlines' : Text.lines (before ++ first ++ "\\" ++ lineEnd ++ indent ++ second ++ "\n" ++
      after).toList = Text.lines before.toList ++ (first.toList ++ ['\\']) ::
        Text.dropReturn (indent.toList ++ second.toList) :: Text.lines after.toList := by
    simpa using lines_broken hbefore hfirst hindent_line hsecond hlineEnd
  have hsecond_line := trimStart_dropReturn_append (fun c hc => (hindent c hc).1) hbare
  have hnear : List.Forall₂ Near
      (logicalLines (before ++ first ++ second ++ "\n" ++ after).toList)
      (logicalLines (before ++ first ++ "\\" ++ lineEnd ++ indent ++ second ++ "\n" ++
        after).toList) := by
    rw [logicalLines_of_append hlines hclosed, logicalLines_of_append hlines' hclosed]
    exact List.rel_append (List.forall₂_same.2 fun line _ => .refl line)
      (near_broken hpart heven hsecond_line _ _)
  exact (AlikeUpToLine.mapM hnear fun a b => alike_entryOfLine resource).map ofList

/-- A line that already goes on in the next one, behind a comment that ends in a backslash, and a
bad escape further down: with the line broken once more the escape is reported one line later. -/
theorem parse_broken_further :
    parse ("# note \\\n" ++ " k = a\\\\" ++ "b\\" ++ "\n" ++ "  c\nd=\\u00") "r" =
        .error (.malformedEscape 4 "00" "r") ∧
      parse ("# note \\\n" ++ " k = a\\\\" ++ "\\" ++ "\r\n" ++ "\t " ++ "b\\" ++ "\n" ++
        "  c\nd=\\u00") "r" = .error (.malformedEscape 5 "00" "r") := by
  have hwhole : parse ("# note \\\n" ++ " k = a\\\\" ++ "b\\" ++ "\n" ++ "  c\nd=\\u00") "r" =
      .error (.malformedEscape 4 "00" "r") := by decide +kernel
  have hnumber : parse ("# note \\\n" ++ " k = a\\\\" ++ "\\" ++ "\r\n" ++ "\t " ++ "b\\" ++ "\n" ++
      "  c\nd=\\u00") "r" ≠ .error (.malformedEscape 4 "00" "r") := by decide +kernel
  have hbare : ∀ c ∈ "b\\".toList.head?, Text.isBlank c = false := by
    intro c hc
    obtain rfl : 'b' = c := Option.some.inj hc
    decide
  have hindent : ∀ c ∈ "\t ".toList, Text.isBlank c = true ∧ c ≠ '\n' := by
    intro c hc
    rcases (by simpa using hc : c = '\t' ∨ c = ' ') with rfl | rfl <;> decide
  have halike : AlikeUpToLine "r"
      (parse ("# note \\\n" ++ " k = a\\\\" ++ "b\\" ++ "\n" ++ "  c\nd=\\u00") "r")
      (parse ("# note \\\n" ++ " k = a\\\\" ++ "\\" ++ "\r\n" ++ "\t " ++ "b\\" ++ "\n" ++
        "  c\nd=\\u00") "r") :=
    parse_broken (.inr (by decide)) (by decide) (by decide) (by decide)
      ⟨'k', by decide, by decide⟩ (by decide) hbare (by decide) hindent (.inr rfl) "r"
  rcases halike with ⟨p, hp, -⟩ | ⟨number, number', digits, h, h', rfl | rfl⟩
  · rw [hwhole] at hp
    cases hp
  · exact absurd (h'.trans (h.symm.trans hwhole)) hnumber
  · rw [hwhole] at h
    obtain ⟨rfl, rfl, -⟩ := SyntaxError.malformedEscape.inj (Except.error.inj h)
    exact ⟨hwhole, h'⟩

end Wiring.Properties
