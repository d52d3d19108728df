import AccessMask.Declaration.Modifiers
import AccessMask.Journal
import AccessMask.Literal
import AccessMask.Text.Blank

/-!
# Flag expressions

An expression is a text made of terms with separators between them and around
them. A term is a literal or a modifier name of the declaration at hand, and
the expression stands for the union of its terms. The first term that stands
for nothing makes the whole expression faulty.
-/

namespace AccessMask.Expression

open Text

/-! ## Terms -/

/-- True of a bar, a comma and a blank. -/
def isSeparator (c : Char) : Bool := c == '|' || c == ',' || isBlank c

/-- Cuts a text at every separator. Two separators in a row have an empty field
between them. -/
def fields : List Char → List (List Char)
  | [] => [[]]
  | c :: rest =>
      if isSeparator c then [] :: fields rest
      else (fields rest).modifyHead (c :: ·)

/-- The terms of a text: its fields that are not empty. -/
def terms (text : String) : List String :=
  ((fields text.toList).filter (· ≠ [])).map String.ofList

theorem fields_ne_nil (text : List Char) : fields text ≠ [] := by
  cases text with
  | nil => simp [fields]
  | cons c rest =>
      by_cases separates : isSeparator c
      · simp [fields, separates]
      · simp [fields, separates, fields_ne_nil rest]

/-- The fields before and after a separator are found apart. -/
theorem fields_append {separator : Char} (separates : isSeparator separator = true)
    (left right : List Char) :
    fields (left ++ separator :: right) = fields left ++ fields right := by
  induction left with
  | nil => simp [fields, separates]
  | cons c rest inductionHypothesis =>
      by_cases alsoSeparates : isSeparator c
      · simp [fields, alsoSeparates, inductionHypothesis]
      · obtain ⟨first, others, shape⟩ := List.exists_cons_of_ne_nil (fields_ne_nil rest)
        simp [fields, alsoSeparates, inductionHypothesis, shape]

/-! ## Values -/

/-- True when the text starts with an ASCII digit, as every literal does. -/
def startsWithDigit (term : String) : Bool := term.toList.head?.any Char.isDigit

/-- The mask that one term stands for. -/
def termMask (declaration : Declaration) (term : String) : Except Fault Mask :=
  if startsWithDigit term then Literal.read term
  else
    match declaration.modifiers.bit? term with
    | some bit => .ok bit
    | none => .error (.unknownModifier term declaration)

/-- The masks of a list of terms, or the fault of the first faulty one. -/
def termMasks (declaration : Declaration) : List String → Except Fault (List Mask)
  | [] => .ok []
  | term :: rest => do
      let mask ← termMask declaration term
      let masks ← termMasks declaration rest
      return mask :: masks

/-- The mask that a list of terms stands for. -/
def unionMask (declaration : Declaration) : List String → Except Fault Mask
  | [] => .error .empty
  | terms => (termMasks declaration terms).map Mask.union

/-- The mask that an expression stands for. -/
def mask (declaration : Declaration) (text : String) : Except Fault Mask :=
  unionMask declaration (terms text)

/-! ## The journal -/

/-- The source of the records of an expression. -/
def recordSource : String := "mutdet_access::parse"

/-- The record of a term that was read. -/
def termRecord (term : String) (mask : Mask) : Record :=
  ⟨.trace, "term " ++ Quoted.quote term ++ " -> " ++ Numeral.hex mask⟩

/-- The records of the terms up to the first faulty one. -/
def termRecords (declaration : Declaration) : List String → List Record
  | [] => []
  | term :: rest =>
      match termMask declaration term with
      | .ok mask => termRecord term mask :: termRecords declaration rest
      | .error _ => []

/-- The record of an expression that was read. -/
def outcomeRecord (declaration : Declaration) (text : String) (mask : Mask) : Record :=
  ⟨.debug, "parsed " ++ declaration.name ++ " flags " ++ Quoted.quote text ++ " -> " ++
    Numeral.paddedHex mask⟩

/-- What reading an expression tells about itself: a record for each term up to
the first faulty one, and one for the whole if there is no such term. -/
def journal (declaration : Declaration) (text : String) : List Record :=
  termRecords declaration (terms text) ++
    match mask declaration text with
    | .ok value => [outcomeRecord declaration text value]
    | .error _ => []

end AccessMask.Expression
