/-!
# Declarations

Access flags are read from a type, a field or a method. The kind of
declaration decides only how bits are named.
-/

namespace AccessMask

/-- The kinds of declaration that carry access flags. -/
inductive Declaration where
  | type
  | field
  | method
  deriving DecidableEq, Repr

namespace Declaration

/-- Every kind of declaration, in the order in which they are listed. -/
def all : List Declaration := [.type, .field, .method]

theorem mem_all (declaration : Declaration) : declaration ∈ all := by
  cases declaration <;> simp [all]

/-- The name of a kind, as it is written and read. -/
def name : Declaration → String
  | .type => "type"
  | .field => "field"
  | .method => "method"

/-- The name of a kind with a capital letter. -/
def title : Declaration → String
  | .type => "Type"
  | .field => "Field"
  | .method => "Method"

/-- Reads a keyword exactly: a kind's own name, or `class` for a type. -/
def ofKeyword? (keyword : String) : Option Declaration :=
  if keyword = "type" ∨ keyword = "class" then some .type
  else if keyword = "field" then some .field
  else if keyword = "method" then some .method
  else none

/-- Reads a keyword whatever the case of its ASCII letters. Nothing is trimmed
and no other letter has a second case. -/
def ofName? (text : String) : Option Declaration :=
  ofKeyword? (String.ofList (text.toList.map Char.toLower))

theorem ofName?_name (declaration : Declaration) :
    ofName? declaration.name = some declaration := by
  cases declaration <;> decide

end Declaration

end AccessMask
