import AccessMask.Fault

/-!
# Reading the kind of a declaration

A kind is read by its name, or as `class` for a type, whatever the case of the
letters. Any other text is a fault that holds the text as it was given.
-/

namespace AccessMask.Declaration

/-- Reads the name of a kind of declaration. -/
def read (text : String) : Except Fault Declaration :=
  match ofName? text with
  | some declaration => .ok declaration
  | none => .error (.unknownDeclaration text)

theorem read_name (declaration : Declaration) : read declaration.name = .ok declaration := by
  simp [read, ofName?_name]

example : read "CLASS" = .ok .type := rfl

example : read " type" = .error (.unknownDeclaration " type") := rfl

end AccessMask.Declaration
