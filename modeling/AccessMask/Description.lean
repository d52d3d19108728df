import AccessMask.Declaration.Modifiers

/-!
# Descriptions

A description tells a mask in the vocabulary of a declaration: the words of the
mask with single spaces between them. It reads back as the same mask.
-/

namespace AccessMask

/-- A mask that is to be told in the words of a kind of declaration. -/
structure Description where
  mask : Mask
  declaration : Declaration
  deriving DecidableEq, Repr

namespace Description

/-- The words of the description. The zero mask has none. -/
def words (description : Description) : List String :=
  description.declaration.modifiers.words description.mask

/-- The words with a space between any two. -/
def text (description : Description) : String :=
  " ".intercalate description.words

/-- The parts of the description, for a developer to look at. -/
def debugText (description : Description) : String :=
  "Describe \x7b flags: " ++ Numeral.decimal description.mask ++ ", kind: " ++
    description.declaration.title ++ " \x7d"

example : text ⟨0x29, .method⟩ = "public static synchronized" := by decide

example : text ⟨0x29, .type⟩ = "public static super" := by decide

example : text ⟨0x80201, .field⟩ = "public 0x80200" := by decide

example : text ⟨0, .type⟩ = "" := by decide

end Description

end AccessMask
