import Wiring.Proofs.Steps
import Wiring.Properties.Text

/-!
# Properties · How reading fails

What is known of the error when a property list cannot be read. Every syntax error names a resource
(`SyntaxError.resource`); main statement: where bytes cannot be read, it is the resource that they
were said to come from (`resource_of_ofBytes_eq_error`).
-/

namespace Wiring

/-- The resource that a syntax error names. -/
def SyntaxError.resource : SyntaxError → String
  | illegalKey _ _ resource => resource
  | emptyValue _ resource => resource
  | undefinedLevel _ _ resource => resource
  | invalidPriority _ _ resource => resource
  | missingImplementation _ resource => resource
  | unterminatedArgument _ resource => resource
  | malformedEscape _ _ resource => resource
  | encoding resource => resource

namespace Properties

/-- The key and the value that the text of a logical line holds. -/
def entryOfText (text : List Char) : Except (List Char) (String × String) := do
  let key ← unescape (splitEntry text).1
  let value ← unescape (splitEntry text).2
  return (.ofList key, .ofList value)

/-- A logical line is read as its text is, and a failure names its number and the resource. -/
theorem entryOfLine_eq (resource : String) (line : LogicalLine) :
    entryOfLine resource line = (entryOfText line.text).mapError fun digits =>
      .malformedEscape line.number (.ofList digits) resource := rfl

/-- A text holds a pair when its written key is read as the key and its written value as the
value. -/
theorem entryOfText_eq_ok_iff {text : List Char} {pair : String × String} :
    entryOfText text = .ok pair ↔
      unescape (splitEntry text).1 = .ok pair.1.toList ∧
        unescape (splitEntry text).2 = .ok pair.2.toList := by
  rw [entryOfText]
  constructor
  · intro h
    obtain ⟨key, hkey, h⟩ := bind_eq_ok_iff.1 h
    obtain ⟨value, hvalue, h⟩ := bind_eq_ok_iff.1 h
    obtain rfl := Except.ok.inj h
    rw [String.toList_ofList, String.toList_ofList]
    exact ⟨hkey, hvalue⟩
  · rintro ⟨hkey, hvalue⟩
    rw [hkey, hvalue]
    exact congrArg Except.ok (Prod.ext String.ofList_toList String.ofList_toList)

/-- An error over a line names the resource that was read. -/
theorem resource_of_entryOfLine_eq_error {resource : String} {line : LogicalLine} {e : SyntaxError}
    (h : entryOfLine resource line = .error e) : e.resource = resource := by
  rw [entryOfLine_eq, mapError_eq_error_iff] at h
  obtain ⟨digits, -, rfl⟩ := h
  rfl

/-- **Bytes that cannot be read** are reported under the name of their resource. -/
theorem resource_of_ofBytes_eq_error {bytes : ByteArray} {resource : String} {e : SyntaxError}
    (h : ofBytes bytes resource = .error e) : e.resource = resource := by
  unfold ofBytes at h
  split at h
  · next text _ =>
    unfold parse at h
    cases hentries : readEntries text resource with
    | error e' =>
      rw [hentries] at h
      obtain rfl := Except.error.inj h
      obtain ⟨line, -, hline⟩ := exists_of_mapM_eq_error hentries
      exact resource_of_entryOfLine_eq_error hline
    | ok entries =>
      rw [hentries] at h
      cases h
  · obtain rfl := Except.error.inj h
    rfl

end Properties

end Wiring
