/-!
# Arguments

An argument of a command line is an option if it starts with a dash and goes
on, and a word otherwise. Two dashes alone divide the options from the words
behind them.
-/

namespace AccessMask.CommandLine

/-- How an argument is spelled. -/
inductive Argument where
  /-- Two dashes alone. -/
  | divider
  /-- Two dashes and a name, with a value if an equals sign follows. -/
  | long (name : String) (value : Option String)
  /-- A dash and a letter, with all the text behind the letter. -/
  | short (letter : Char) (rest : String)
  /-- Any other text, the empty one and a lone dash included. -/
  | word (text : String)
  deriving DecidableEq, Repr

namespace Argument

/-- Cuts a text at its first equals sign. -/
def splitAtEquals (text : List Char) : String × Option String :=
  (String.ofList (text.takeWhile (· ≠ '=')),
    match text.dropWhile (· ≠ '=') with
    | [] => none
    | _ :: value => some (String.ofList value))

/-- Tells how an argument is spelled. -/
def ofText (text : String) : Argument :=
  match text.toList with
  | ['-', '-'] => .divider
  | '-' :: '-' :: rest =>
      let (name, value) := splitAtEquals rest
      .long name value
  | '-' :: letter :: rest => .short letter (String.ofList rest)
  | _ => .word text

example : ofText "--kind=field" = .long "kind" (some "field") := by decide

example : ofText "-k=field" = .short 'k' "=field" := by decide

example : ofText "-" = .word "-" ∧ ofText "" = .word "" ∧ ofText "--" = .divider := by decide

end Argument

end AccessMask.CommandLine
