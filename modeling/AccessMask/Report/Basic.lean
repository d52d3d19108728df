import AccessMask.Description
import AccessMask.Inspection

/-!
# Reports

A report tells all that is known about a mask on a declaration: the kind of the
declaration, the mask as a numeral, its description and the answer to every
predicate. It is a list of entries, which each layout writes in its own way.
-/

namespace AccessMask

/-- All that is told about a mask on a declaration. -/
structure Report where
  declaration : Declaration
  inspection : Inspection
  deriving DecidableEq, Repr

namespace Report

/-- The value of an entry: a text or a truth value. -/
inductive Value where
  | text (value : String)
  | truth (value : Bool)
  deriving DecidableEq, Repr

/-- One entry of a report. The key names it in a document, the heading on a
screen. -/
structure Entry where
  key : String
  heading : String
  value : Value
  deriving DecidableEq, Repr

/-- The numeral of the mask. -/
def flags (report : Report) : String := Numeral.paddedHex report.inspection.mask

/-- The description of the mask in the words of the declaration. -/
def modifiers (report : Report) : String :=
  Description.text ⟨report.inspection.mask, report.declaration⟩

/-- The answers to the predicates, by name. -/
def verdicts (report : Report) : List (String × Bool) := report.inspection.verdicts

/-- The entries in their order. A predicate has one name for both uses. -/
def entries (report : Report) : List Entry :=
  [⟨"kind", "Kind", .text report.declaration.name⟩,
    ⟨"flags", "Flags", .text report.flags⟩,
    ⟨"modifiers", "Modifiers", .text report.modifiers⟩] ++
    report.verdicts.map fun (name, value) => ⟨name, name, .truth value⟩

/-- The words for a truth value. -/
def truthText (value : Bool) : String := if value then "true" else "false"

end Report

end AccessMask
