import AccessMask.Declaration
import AccessMask.Text.Quoted

/-!
# Faults

What can be wrong with a text that is read as an expression, a literal or the
name of a declaration. A fault holds the offending text unaltered; its message
shows that text in quotes.
-/

namespace AccessMask

open Text

/-- The causes for which a text is refused. -/
inductive Fault where
  /-- An expression without a term. -/
  | empty
  /-- A term that the declaration has no modifier for. -/
  | unknownModifier (name : String) (declaration : Declaration)
  /-- A text that is no literal of thirty-two bits. -/
  | invalidLiteral (text : String)
  /-- A text that names no kind of declaration. -/
  | unknownDeclaration (text : String)
  deriving DecidableEq, Repr

/-- The message that tells a user about a fault, in one line. -/
def Fault.message : Fault → String
  | .empty => "Empty flag expression"
  | .unknownModifier name declaration =>
      "Unknown " ++ declaration.name ++ " modifier: " ++ Quoted.quote name
  | .invalidLiteral text => "Invalid integer literal " ++ Quoted.quote text
  | .unknownDeclaration text =>
      "Unknown element kind " ++ Quoted.quote text ++
        " (expected type, field or method)"

end AccessMask
