import AccessMask.CommandLine.Item
import AccessMask.Declaration

/-!
# Invocations

An invocation is a command line that was understood: what to do, for which kind
of declaration and with which words. Arguments are read from left to right, and
the first that cannot stand decides the refusal.
-/

namespace AccessMask.CommandLine

/-- The layouts of a report. -/
inductive Format where
  | text
  | yaml
  deriving DecidableEq, Repr

/-- Reads the name of a layout exactly. -/
def Format.ofName? (name : String) : Option Format :=
  if name = "text" then some .text
  else if name = "yaml" then some .yaml
  else none

/-- The commands. -/
inductive Command where
  | query
  | describe
  | encode
  deriving DecidableEq, Repr

namespace Command

/-- Reads the name of a command exactly. -/
def ofName? (name : String) : Option Command :=
  if name = "query" then some .query
  else if name = "describe" then some .describe
  else if name = "encode" then some .encode
  else none

/-- The settings that a command takes. Only a query has a layout. -/
def settings : Command → List Setting
  | .query => [.declaration, .format]
  | .describe => [.declaration]
  | .encode => [.declaration]

end Command

/-- What an invocation does with a mask. -/
inductive Action where
  /-- Reports all about the mask. -/
  | query (format : Format)
  /-- Tells the mask in words. -/
  | describe
  /-- Writes the mask as a number. -/
  | encode
  deriving DecidableEq, Repr

/-- The action of a command with the layout that was chosen. -/
def Command.action (format : Format) : Command → Action
  | .query => .query format
  | .describe => .describe
  | .encode => .encode

/-- A command line that was understood. It has a word at least. -/
structure Invocation where
  action : Action
  declaration : Declaration
  words : List String
  someWord : words ≠ []
  deriving DecidableEq, Repr

/-! ## Settings -/

/-- The settings made so far. -/
structure Choices where
  declaration : Option Declaration
  format : Option Format
  deriving DecidableEq, Repr

namespace Choices

/-- No setting made. -/
def initial : Choices := ⟨none, none⟩

/-- Makes a setting. It must not have been made before, and its value has to be
one of those that it admits. -/
def choose (choices : Choices) : Setting → String → Except Refusal Choices
  | .declaration, value =>
      if choices.declaration.isSome then .error .repeatedSetting
      else
        match Declaration.ofKeyword? value with
        | some declaration => .ok { choices with declaration := some declaration }
        | none => .error .invalidValue
  | .format, value =>
      if choices.format.isSome then .error .repeatedSetting
      else
        match Format.ofName? value with
        | some format => .ok { choices with format := some format }
        | none => .error .invalidValue

/-- The refusal at the head of the items that is reported before anything is
said about a setting just in front of it. Asking for help is no such refusal. -/
def overtaking : List Item → Option Refusal
  | .refused .help :: _ => none
  | .refused refusal :: _ => some refusal
  | _ => none

/-- Makes the settings among the items, in their order. A setting whose value
stands apart is looked at only when the next item is known. -/
def chooseAll (choices : Choices) : List Item → Except Refusal Choices
  | [] => .ok choices
  | .word _ :: rest => chooseAll choices rest
  | .attached setting value :: rest => do chooseAll (← choices.choose setting value) rest
  | .apart setting value :: rest =>
      match overtaking rest, value with
      | some refusal, _ => .error refusal
      | none, none => .error .invalidValue
      | none, some value => do chooseAll (← choices.choose setting value) rest
  | .refused refusal :: _ => .error refusal

end Choices

/-! ## Reading -/

namespace Invocation

/-- Builds the invocation of a command from its items. Without any setting a
method is meant and a report is a table. -/
def ofItems (command : Command) (items : List Item) : Except Refusal Invocation := do
  let choices ← Choices.initial.chooseAll items
  match Item.words items with
  | [] => .error .missingWords
  | first :: rest =>
      .ok
        ⟨command.action (choices.format.getD .text), choices.declaration.getD .method,
          first :: rest, List.cons_ne_nil first rest⟩

/-- True of a word that may follow `help`, and that stands for a command if it
comes first. -/
def isTopic (word : String) : Bool := word = "help" || (Command.ofName? word).isSome

/-- The refusal for what follows `help`: one topic at most. -/
def helpRefusal : List String → Refusal
  | [] => .help
  | [topic] => if isTopic topic then .help else .unknownCommand
  | _ => .unknownCommand

/-- The refusal for what follows a divider in the place of a command. No command
is taken there. -/
def dividerRefusal : List String → Refusal
  | [] => .missingCommand
  | word :: _ => if isTopic word then .unknownOption else .unknownCommand

/-- Reads a command line: the name of a command and the items for it. -/
def read : List String → Except Refusal Invocation
  | [] => .error .missingCommand
  | first :: rest =>
      match Argument.ofText first with
      | .divider => .error (dividerRefusal rest)
      | .word name =>
          if name = "help" then .error (helpRefusal rest)
          else
            match Command.ofName? name with
            | some command => ofItems command (Item.ofArguments command.settings none rest)
            | none => .error .unknownCommand
      | option => .error option.refusal

end Invocation

end AccessMask.CommandLine
