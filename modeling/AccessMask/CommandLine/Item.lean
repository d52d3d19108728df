import AccessMask.CommandLine.Argument

/-!
# Items of a command line

Behind its name a command takes items: words, and settings with their values.
The value of a setting stands in the same argument or in the next one. A
setting whose value stands apart takes the next argument only if that is a word.
-/

namespace AccessMask.CommandLine

/-- Why a command line leads to no command being run. -/
inductive Refusal where
  /-- The user asked for help. -/
  | help
  /-- There is no command. -/
  | missingCommand
  /-- A word that is no command stands in the place of one. -/
  | unknownCommand
  /-- An option that nothing takes. -/
  | unknownOption
  /-- A value for the option that asks for help. -/
  | unexpectedValue
  /-- A setting with a wrong value or none. -/
  | invalidValue
  /-- A setting that was made before. -/
  | repeatedSetting
  /-- A command without a word. -/
  | missingWords
  deriving DecidableEq, Repr

/-- The exit code after a refusal: asking for help is no failure. -/
def Refusal.exitCode : Refusal → Nat
  | .help => 0
  | _ => 2

/-- The refusal that an option leads to where no setting has its name. -/
def Argument.refusal : Argument → Refusal
  | .long "help" none => .help
  | .long "help" (some _) => .unexpectedValue
  | .short 'h' _ => .help
  | _ => .unknownOption

/-- What can be set on a command line. -/
inductive Setting where
  /-- The kind of declaration. -/
  | declaration
  /-- The layout of a report. -/
  | format
  deriving DecidableEq, Repr

/-- The name of a setting behind two dashes. -/
def Setting.name : Setting → String
  | .declaration => "kind"
  | .format => "format"

/-- The letter of a setting behind one dash. -/
def Setting.letter : Setting → Char
  | .declaration => 'k'
  | .format => 'f'

/-- An item of a command line. -/
inductive Item where
  | word (text : String)
  /-- A setting with its value in the same argument. -/
  | attached (setting : Setting) (value : String)
  /-- A setting with its value in the next argument, if there is one. -/
  | apart (setting : Setting) (value : Option String)
  /-- An option that no setting takes. -/
  | refused (refusal : Refusal)
  deriving DecidableEq, Repr

namespace Item

/-- The value that follows a letter: an equals sign before it does not count. -/
def attachedValue (rest : String) : String :=
  match rest.toList with
  | '=' :: value => String.ofList value
  | _ => rest

/-- The setting that an option names, with its value if that is in the same
argument. -/
def setting? (settings : List Setting) : Argument → Option (Setting × Option String)
  | .long name value => (settings.find? (·.name = name)).map (·, value)
  | .short letter rest =>
      (settings.find? (·.letter = letter)).map
        (·, if rest = "" then none else some (attachedValue rest))
  | _ => none

/-- The item that ends where a value was awaited and none came. -/
def unanswered (awaiting : Option Setting) : List Item :=
  (awaiting.map (apart · none)).toList

/-- The items of a list of arguments, if a setting may still await its value.
Behind the divider every argument is a word. -/
def ofArguments (settings : List Setting) : Option Setting → List String → List Item
  | awaiting, [] => unanswered awaiting
  | awaiting, text :: rest =>
      match Argument.ofText text with
      | .divider => unanswered awaiting ++ rest.map word
      | .word value =>
          match awaiting with
          | some setting => apart setting (some value) :: ofArguments settings none rest
          | none => word value :: ofArguments settings none rest
      | argument =>
          match setting? settings argument with
          | some (setting, some value) =>
              unanswered awaiting ++ attached setting value :: ofArguments settings none rest
          | some (setting, none) =>
              unanswered awaiting ++ ofArguments settings (some setting) rest
          | none =>
              unanswered awaiting ++ refused argument.refusal :: ofArguments settings none rest

/-- The words among the items. -/
def words (items : List Item) : List String :=
  items.filterMap fun item =>
    match item with
    | .word text => some text
    | _ => none

end Item

end AccessMask.CommandLine
