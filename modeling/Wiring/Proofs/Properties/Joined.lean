import Mathlib.Data.List.Induction
import Mathlib.Data.List.Nodup
import Mathlib.Data.List.TakeWhile
import Wiring.Proofs.Properties.Written

/-!
# Properties · Lines that go on

Which lines make a logical line, told without the state of the reader. `goesOn` says whether a line
goes on in the next one, `leavesOpen` whether the last of some lines does, and `joined` is what a
line and the lines in which it goes on make together. Main statements: the logical lines are exactly
those made from the lines that begin one, each numbered by the place of its first line
(`mem_logicalLines_iff`), their numbers ascend (`pairwise_number_logicalLines`), and behind lines
that leave nothing open the reading begins afresh (`logicalLinesFrom_append`).

The reader asks of each line by itself whether it goes on. It makes no difference to ask this of all
that is joined so far, as `gather` does (`logicalLinesFrom_cons_eq_gather`): a line that went on has
lost its last backslash, so none is left open in front of the line that is asked about.
-/

namespace Wiring.Properties

/-! ## Backslashes at the end -/

/-- One more backslash at the end changes whether a line goes on. -/
theorem continues_append_backslash (cs : List Char) : continues (cs ++ ['\\']) = !continues cs := by
  rw [continues_append_singleton, if_pos rfl]

/-- A line whose last character is no backslash does not go on. -/
theorem not_continues_of_getLast? {cs : List Char} (h : cs.getLast? ≠ some '\\') :
    continues cs = false := by
  cases cs using List.reverseRecOn with
  | nil => rfl
  | append_singleton front c =>
    rw [continues_append_singleton, if_neg]
    rintro rfl
    exact h (by simp)

/-- Behind characters that leave no backslash open, only what follows counts. -/
theorem continues_append {front : List Char} (h : continues front = false) (back : List Char) :
    continues (front ++ back) = continues back := by
  induction back using List.reverseRecOn with
  | nil =>
    rw [List.append_nil, h]
    rfl
  | append_singleton back c ih =>
    rw [← List.append_assoc, continues_append_singleton, continues_append_singleton, ih]

/-- Characters at the start that are no backslashes do not count. -/
theorem continues_dropWhile {p : Char → Bool} (h : p '\\' = false) (cs : List Char) :
    continues (cs.dropWhile p) = continues cs := by
  have hfront : continues (cs.takeWhile p) = false := by
    refine not_continues_of_getLast? fun hlast => ?_
    rw [List.mem_takeWhile_imp (List.mem_of_getLast? hlast)] at h
    cases h
  rw [← continues_append hfront, List.takeWhile_append_dropWhile]

/-- Without its last backslash, what goes on would not. -/
theorem not_continues_dropLast {cs : List Char} (h : continues cs = true) :
    continues cs.dropLast = false := by
  have hlast : '\\' ∈ cs.getLast? := by
    by_contra hne
    rw [not_continues_of_getLast? hne] at h
    cases h
  rw [← List.dropLast_append_getLast? _ hlast, continues_append_backslash] at h
  simpa using h

/-! ## Lines that go on -/

/-- Whether a line is part of a logical line: it is unless it holds nothing, and also then if the
line before it goes on in it, which is what `isOpen` says. -/
def isPart (isOpen : Bool) (line : List Char) : Bool :=
  isOpen || !isSkipped (Text.trimStart line)

/-- Whether a line goes on in the next one. -/
def goesOn (isOpen : Bool) (line : List Char) : Bool :=
  isPart isOpen line && continues (Text.trimStart line)

/-- Whether the last of some lines goes on. -/
def leavesOpen (lines : List (List Char)) : Bool :=
  lines.foldl goesOn false

/-- The text of a line and of the lines in which it goes on. -/
def joined : List (List Char) → List Char
  | [] => []
  | line :: lines =>
    let body := Text.trimStart line
    if continues body then body.dropLast ++ joined lines else body

/-- A line that goes on is joined without its last backslash. -/
theorem joined_cons (line : List Char) (lines : List (List Char)) :
    joined (line :: lines) =
      if continues (Text.trimStart line) then (Text.trimStart line).dropLast ++ joined lines
      else Text.trimStart line := rfl

/-- **No backslash is left open** by what lines make together, even if the last of them goes on:
its backslash is dropped all the same. -/
theorem not_continues_joined (lines : List (List Char)) : continues (joined lines) = false := by
  induction lines with
  | nil => rfl
  | cons line lines ih =>
    rw [joined_cons]
    split
    · next hcontinues => rw [continues_append (not_continues_dropLast hcontinues), ih]
    · next hcontinues => exact Bool.eq_false_iff.2 hcontinues

/-! ## The reader, line by line -/

/-- What the reader does with line `n`: the logical line that it ends, if any, and what is pending
behind it. A line that is part of no logical line is passed over. -/
def stepLine (n : Nat) (pending : Option LogicalLine) (line : List Char) :
    Option LogicalLine × Option LogicalLine :=
  let start := pending.getD ⟨n, []⟩
  let body := Text.trimStart line
  if isPart pending.isSome line then
    if continues body then (none, some (start.extend body.dropLast))
    else (some (start.extend body), none)
  else (none, none)

variable {n : Nat} {pending : Option LogicalLine} {lines : List (List Char)}

/-- The reader takes the first line, and goes on with what is pending behind it. -/
theorem logicalLinesFrom_cons (n : Nat) (pending : Option LogicalLine) (line : List Char)
    (rest : List (List Char)) :
    logicalLinesFrom n pending (line :: rest) =
      (stepLine n pending line).1.toList ++
        logicalLinesFrom (n + 1) (stepLine n pending line).2 rest := by
  rw [logicalLinesFrom, stepLine]
  cases pending <;> cases hskipped : isSkipped (Text.trimStart line) <;>
    cases hcontinues : continues (Text.trimStart line) <;> simp [isPart, hskipped]

/-- Something is pending behind a line that goes on, and only then. -/
theorem isSome_stepLine (n : Nat) (pending : Option LogicalLine) (line : List Char) :
    (stepLine n pending line).2.isSome = goesOn pending.isSome line := by
  simp only [stepLine, goesOn]
  cases isPart pending.isSome line <;> cases continues (Text.trimStart line) <;> rfl

/-- **Behind lines that leave nothing open** the reading begins afresh. -/
theorem logicalLinesFrom_append {front : List (List Char)}
    (h : front.foldl goesOn pending.isSome = false) (rest : List (List Char)) :
    logicalLinesFrom n pending (front ++ rest) =
      logicalLinesFrom n pending front ++ logicalLinesFrom (n + front.length) none rest := by
  induction front generalizing n pending with
  | nil =>
    obtain rfl : pending = none := Option.isNone_iff_eq_none.1 (by simpa using h)
    rfl
  | cons line front ih =>
    rw [List.foldl_cons, ← isSome_stepLine n] at h
    rw [List.cons_append, logicalLinesFrom_cons, logicalLinesFrom_cons, ih h, List.append_assoc,
      List.length_cons, Nat.add_comm front.length, Nat.add_assoc]

/-- A text whose first lines leave nothing open is read in two parts. -/
theorem logicalLines_of_append {cs : List Char} {front rest : List (List Char)}
    (hlines : Text.lines cs = front ++ rest) (h : leavesOpen front = false) :
    logicalLines cs =
      logicalLinesFrom 1 none front ++ logicalLinesFrom (1 + front.length) none rest := by
  rw [logicalLines, hlines]
  exact @logicalLinesFrom_append 1 none front h rest

/-! ## Asking what is joined so far -/

/-- Joins lines to a text for as long as the text goes on: what they make, and how many of them were
taken. The last backslash of a text that goes on is dropped, also where no line is left. -/
def gather (text : List Char) : List (List Char) → List Char × Nat
  | [] => (if continues text then text.dropLast else text, 0)
  | line :: lines =>
    if continues text then
      let gathered := gather (text.dropLast ++ Text.trimStart line) lines
      (gathered.1, gathered.2 + 1)
    else (text, 0)

/-- A text that does not go on is complete. -/
theorem gather_of_not_continues {text : List Char} (h : continues text = false)
    (lines : List (List Char)) : gather text lines = (text, 0) := by
  cases lines <;> simp [gather, h]

/-- A text that goes on takes the next line. -/
theorem gather_of_continues {text : List Char} (h : continues text = true) (line : List Char)
    (lines : List (List Char)) :
    gather text (line :: lines) =
      ((gather (text.dropLast ++ Text.trimStart line) lines).1,
        (gather (text.dropLast ++ Text.trimStart line) lines).2 + 1) := by
  simp [gather, h]

/-- **Both tests agree**: a pending text goes on, with one more line, exactly if that line does. -/
theorem continues_extend (start : LogicalLine) (h : continues start.text = false)
    (body : List Char) : continues (start.extend body).text = continues body :=
  continues_append h body

/-- Behind a text that goes on the reader takes the lines that are joined to it, and then begins
afresh. -/
theorem logicalLinesFrom_some {number : Nat} {text : List Char} (h : continues text = true) :
    logicalLinesFrom n (some ⟨number, text.dropLast⟩) lines =
      ⟨number, (gather text lines).1⟩ ::
        logicalLinesFrom (n + (gather text lines).2) none (lines.drop (gather text lines).2) := by
  induction lines generalizing n text with
  | nil => simp [logicalLinesFrom, gather, h]
  | cons line lines ih =>
    have htest : continues (text.dropLast ++ Text.trimStart line) =
        continues (Text.trimStart line) :=
      continues_extend ⟨number, text.dropLast⟩ (not_continues_dropLast h) _
    rw [logicalLinesFrom_cons, gather_of_continues h, List.drop_succ_cons, ← Nat.add_assoc,
      Nat.add_right_comm]
    cases hcontinues : continues (Text.trimStart line) with
    | true =>
      have hne : Text.trimStart line ≠ [] := by
        intro hnil
        rw [hnil] at hcontinues
        cases hcontinues
      have hstep : stepLine n (some ⟨number, text.dropLast⟩) line =
          (none, some ⟨number, (text.dropLast ++ Text.trimStart line).dropLast⟩) := by
        simp [stepLine, isPart, hcontinues, LogicalLine.extend, List.dropLast_append_of_ne_nil hne]
      rw [hstep]
      exact ih (htest.trans hcontinues)
    | false =>
      have hstep : stepLine n (some ⟨number, text.dropLast⟩) line =
          (some ⟨number, text.dropLast ++ Text.trimStart line⟩, none) := by
        simp [stepLine, isPart, hcontinues, LogicalLine.extend]
      rw [hstep, gather_of_not_continues (htest.trans hcontinues)]
      rfl

/-- **Reading by the joined text**: a line that holds something begins a logical line, to which
lines are joined for as long as what is joined goes on; the reading then begins afresh. -/
theorem logicalLinesFrom_cons_eq_gather {line : List Char} (h : isPart false line = true) :
    logicalLinesFrom n none (line :: lines) =
      ⟨n, (gather (Text.trimStart line) lines).1⟩ ::
        logicalLinesFrom (n + 1 + (gather (Text.trimStart line) lines).2) none
          (lines.drop (gather (Text.trimStart line) lines).2) := by
  rw [logicalLinesFrom_cons]
  cases hcontinues : continues (Text.trimStart line) with
  | true =>
    have hstep : stepLine n none line = (none, some ⟨n, (Text.trimStart line).dropLast⟩) := by
      simp [stepLine, h, hcontinues, LogicalLine.extend]
    rw [hstep]
    exact logicalLinesFrom_some hcontinues
  | false =>
    have hstep : stepLine n none line = (some ⟨n, Text.trimStart line⟩, none) := by
      simp [stepLine, h, hcontinues, LogicalLine.extend]
    rw [hstep, gather_of_not_continues hcontinues]
    rfl

/-- A line that holds nothing is passed over. -/
theorem logicalLinesFrom_cons_of_not_isPart {line : List Char} (h : isPart false line = false) :
    logicalLinesFrom n none (line :: lines) = logicalLinesFrom (n + 1) none lines := by
  rw [logicalLinesFrom_cons, stepLine, Option.isSome_none, h]
  rfl

/-! ## Which logical lines there are -/

/-- To add one text after another is to add both at once. -/
theorem LogicalLine.extend_extend (line : LogicalLine) (first second : List Char) :
    (line.extend first).extend second = line.extend (first ++ second) := by
  simp only [LogicalLine.extend, List.append_assoc]

/-- The ways in which an item of a list stands behind others. -/
theorem exists_append_cons_iff {α : Type} {Q : List α → α → List α → Prop} {x : α} {xs : List α} :
    (∃ front first rest, x :: xs = front ++ first :: rest ∧ Q front first rest) ↔
      Q [] x xs ∨ ∃ front first rest, xs = front ++ first :: rest ∧ Q (x :: front) first rest := by
  constructor
  · rintro ⟨_ | ⟨y, front⟩, first, rest, hsplit, hQ⟩
    · obtain ⟨rfl, rfl⟩ := List.cons.inj hsplit
      exact .inl hQ
    · obtain ⟨rfl, rfl⟩ := List.cons.inj hsplit
      exact .inr ⟨front, first, rest, rfl, hQ⟩
  · rintro (hQ | ⟨front, first, rest, rfl, hQ⟩)
    · exact ⟨[], x, xs, rfl, hQ⟩
    · exact ⟨x :: front, first, rest, rfl, hQ⟩

/-- **What the reader makes of lines**: what is pending together with the lines in which it goes on,
and of each line that begins a logical line what it and the lines in which it goes on make. -/
theorem mem_logicalLinesFrom_iff {line : LogicalLine} :
    line ∈ logicalLinesFrom n pending lines ↔
      (∃ start, pending = some start ∧ line = start.extend (joined lines)) ∨
      ∃ front first rest, lines = front ++ first :: rest ∧
        front.foldl goesOn pending.isSome = false ∧ isPart false first = true ∧
        line = ⟨n + front.length, joined (first :: rest)⟩ := by
  induction lines generalizing n pending with
  | nil => cases pending <;> simp [logicalLinesFrom, joined, LogicalLine.extend]
  | cons next lines ih =>
    have hnumber (front : List (List Char)) :
        n + (next :: front).length = n + 1 + front.length := by
      rw [List.length_cons, Nat.add_comm front.length, Nat.add_assoc]
    rw [logicalLinesFrom_cons, List.mem_append, ih, exists_append_cons_iff, isSome_stepLine]
    simp only [List.foldl_cons, hnumber, joined_cons, ← or_assoc]
    refine or_congr_left ?_
    -- the line itself: part of what is pending, the beginning of a logical line, or passed over
    cases pending with
    | none =>
      cases hpart : isPart false next <;> cases hcontinues : continues (Text.trimStart next) <;>
        simp [stepLine, hpart, hcontinues, LogicalLine.extend, @eq_comm _ line]
    | some start =>
      cases hcontinues : continues (Text.trimStart next) <;>
        simp [stepLine, isPart, hcontinues, LogicalLine.extend_extend, @eq_comm _ line]

/-- **The logical lines of a text** are what the lines that begin one make, each with the lines in
which it goes on. The number of such a line is its place in the text, counted from one. -/
theorem mem_logicalLines_iff {cs : List Char} {line : LogicalLine} :
    line ∈ logicalLines cs ↔
      ∃ front first rest, Text.lines cs = front ++ first :: rest ∧ leavesOpen front = false ∧
        isPart false first = true ∧ line = ⟨front.length + 1, joined (first :: rest)⟩ := by
  rw [logicalLines, mem_logicalLinesFrom_iff]
  simp [leavesOpen, Nat.add_comm 1]

/-- No logical line ends in a backslash that would escape what follows. -/
theorem not_continues_text {cs : List Char} {line : LogicalLine} (h : line ∈ logicalLines cs) :
    continues line.text = false := by
  obtain ⟨front, first, rest, -, -, -, rfl⟩ := mem_logicalLines_iff.1 h
  exact not_continues_joined (first :: rest)

/-- No logical line begins before the first line of those that are read. -/
theorem le_number_of_mem {line : LogicalLine} (h : line ∈ logicalLinesFrom n none lines) :
    n ≤ line.number := by
  rcases mem_logicalLinesFrom_iff.1 h with ⟨start, hnone, -⟩ | ⟨front, first, rest, -, -, -, rfl⟩
  · cases hnone
  · exact Nat.le_add_right n front.length

/-- Numbers ascend, if what is pending began before the lines that are read. -/
theorem pairwise_number_logicalLinesFrom (h : ∀ start, pending = some start → start.number < n) :
    (logicalLinesFrom n pending lines).Pairwise fun a b => a.number < b.number := by
  induction lines generalizing n pending with
  | nil => cases pending <;> simp [logicalLinesFrom]
  | cons next lines ih =>
    rw [logicalLinesFrom_cons]
    have hstart : (pending.getD ⟨n, []⟩).number ≤ n := by
      cases pending with
      | none => exact Nat.le_refl n
      | some start => exact Nat.le_of_lt (h start rfl)
    unfold stepLine
    dsimp only
    split
    · split
      · refine ih fun start hpending => ?_
        obtain rfl := Option.some.inj hpending
        exact Nat.lt_succ_of_le hstart
      · rw [Option.toList_some, List.singleton_append, List.pairwise_cons]
        exact ⟨fun line hline => Nat.lt_of_le_of_lt hstart (le_number_of_mem hline), ih nofun⟩
    · exact ih nofun

/-- **The numbers of logical lines ascend**, so no two of them begin on the same line. -/
theorem pairwise_number_logicalLines (cs : List Char) :
    (logicalLines cs).Pairwise fun a b => a.number < b.number :=
  pairwise_number_logicalLinesFrom nofun

/-- A logical line is told by its number. -/
theorem eq_of_number_eq {cs : List Char} {a b : LogicalLine} (ha : a ∈ logicalLines cs)
    (hb : b ∈ logicalLines cs) (h : a.number = b.number) : a = b := by
  have hnodup : ((logicalLines cs).map LogicalLine.number).Nodup :=
    List.pairwise_map.2 ((pairwise_number_logicalLines cs).imp Nat.ne_of_lt)
  exact List.inj_on_of_nodup_map hnodup ha hb h

end Wiring.Properties
