import AccessMask.CommandLine.Invocation
import AccessMask.Expression
import AccessMask.Journal.Filter
import AccessMask.Report.Table
import AccessMask.Report.Yaml

/-!
# Outcomes

The words of an invocation, joined by single spaces, are one expression. Either
it stands for a mask and the action writes it out, or its fault is the only
thing that is told. Nothing is ever written in part.
-/

namespace AccessMask.CommandLine

/-- What a run leaves behind. -/
structure Outcome where
  exitCode : Nat
  stdout : String
  stderr : String
  deriving DecidableEq, Repr

/-- What an action writes about a mask on a kind of declaration. -/
def Action.output (action : Action) (declaration : Declaration) (mask : Mask) : String :=
  match action with
  | .query .text => Report.table ⟨declaration, .ofDeclaration declaration mask⟩
  | .query .yaml => Report.Yaml.document ⟨declaration, .ofDeclaration declaration mask⟩
  | .describe => Description.text ⟨mask, declaration⟩ ++ "\n"
  | .encode => Numeral.paddedHex mask ++ " " ++ Numeral.decimal mask ++ "\n"

/-- The source of the records of an action. -/
def Action.recordSource : String := "mdq"

/-- What an action tells about itself once it has a mask. -/
def Action.records (action : Action) (declaration : Declaration) (mask : Mask) : List Record :=
  match action with
  | .query _ =>
      [⟨.debug, declaration.name ++ " " ++
        (Inspection.ofDeclaration declaration mask).debugText⟩]
  | .describe => []
  | .encode => []

namespace Invocation

/-- The expression that the words make. -/
def expression (invocation : Invocation) : String := " ".intercalate invocation.words

/-- The mask that the expression stands for. -/
def mask (invocation : Invocation) : Except Fault Mask :=
  Expression.mask invocation.declaration invocation.expression

/-- The outcome of an invocation. -/
def outcome (invocation : Invocation) : Outcome :=
  match invocation.mask with
  | .ok mask => ⟨0, invocation.action.output invocation.declaration mask, ""⟩
  | .error fault => ⟨1, "", "Error: " ++ fault.message ++ "\n"⟩

/-- What the action tells about itself, if it gets a mask. -/
def actionJournal (invocation : Invocation) : List Record :=
  match invocation.mask with
  | .ok mask => invocation.action.records invocation.declaration mask
  | .error _ => []

/-- What an invocation tells about itself. -/
def journal (invocation : Invocation) : List Record :=
  Expression.journal invocation.declaration invocation.expression ++ invocation.actionJournal

/-- The records that are shown under a filter. Without one there are none. -/
def shown (invocation : Invocation) (setting : Option String) : List Record :=
  let filter := Filter.ofText (setting.getD "")
  filter.kept Expression.recordSource
      (Expression.journal invocation.declaration invocation.expression) ++
    filter.kept Action.recordSource invocation.actionJournal

end Invocation

end AccessMask.CommandLine
