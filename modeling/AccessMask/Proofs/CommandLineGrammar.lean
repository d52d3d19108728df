import AccessMask.CommandLine.Invocation
import Mathlib.Logic.Function.Basic

/-!
# The grammar of command lines

A command line is the name of a command, then words and settings in any order,
then, if a divider follows, any texts at all. A setting has five spellings. The
grammar writes a command line down and does not use the reader. No two command
lines are written alike.
-/

namespace AccessMask.CommandLine

/-! ## Settings -/

/-- What a setting is set to. -/
inductive Choice where
  | declaration (declaration : Declaration)
  | format (format : Format)
  deriving DecidableEq, Repr

namespace Choice

def setting : Choice → Setting
  | .declaration _ => .declaration
  | .format _ => .format

def declaration? : Choice → Option Declaration
  | .declaration kind => some kind
  | .format _ => none

def format? : Choice → Option Format
  | .declaration _ => none
  | .format layout => some layout

end Choice

/-- The values of settings and what each of them stands for. -/
def keywords : List (String × Choice) :=
  [("type", .declaration .type), ("class", .declaration .type),
    ("field", .declaration .field), ("method", .declaration .method),
    ("text", .format .text), ("yaml", .format .yaml)]

/-- The ways to write a setting with its value. -/
inductive Spelling where
  /-- As in `-k field`. -/
  | letterApart
  /-- As in `-kfield`. -/
  | letterJoined
  /-- As in `-k=field`. -/
  | letterEquals
  /-- As in `--kind field`. -/
  | nameApart
  /-- As in `--kind=field`. -/
  | nameEquals
  deriving DecidableEq, Repr

def Spelling.arguments (setting : Setting) (value : String) : Spelling → List String
  | .letterApart => ["-" ++ String.singleton setting.letter, value]
  | .letterJoined => ["-" ++ String.singleton setting.letter ++ value]
  | .letterEquals => ["-" ++ String.singleton setting.letter ++ "=" ++ value]
  | .nameApart => ["--" ++ setting.name, value]
  | .nameEquals => ["--" ++ setting.name ++ "=" ++ value]

/-! ## Command lines -/

/-- True of a lone dash and of a text that does not start with a dash. -/
def IsPlain (text : String) : Prop := text = "-" ∨ text.toList.head? ≠ some '-'

instance (text : String) : Decidable (IsPlain text) :=
  inferInstanceAs (Decidable (text = "-" ∨ text.toList.head? ≠ some '-'))

/-- What may stand between a command and the divider. Only a query has a
layout to set. -/
inductive Part (command : Command) where
  | word (text : String) (plain : IsPlain text)
  | setting (spelling : Spelling) (keyword : String) (choice : Choice)
      (listed : (keyword, choice) ∈ keywords)
      (taken : choice.setting = .format → command = .query)

namespace Part

variable {command : Command}

def arguments : Part command → List String
  | .word text _ => [text]
  | .setting spelling keyword choice _ _ => spelling.arguments choice.setting keyword

def word? : Part command → Option String
  | .word text _ => some text
  | .setting _ _ _ _ _ => none

def choice? : Part command → Option Choice
  | .word _ _ => none
  | .setting _ _ choice _ _ => some choice

end Part

def Command.name : Command → String
  | .query => "query"
  | .describe => "describe"
  | .encode => "encode"

def behindArguments : Option (List String) → List String
  | none => []
  | some texts => "--" :: texts

/-- A command line with each setting made at most once and with a word at
least. -/
structure Line where
  command : Command
  parts : List (Part command)
  behind : Option (List String)
  atMostOnce : ((parts.filterMap Part.choice?).map Choice.setting).Nodup
  someWord : parts.filterMap Part.word? ++ behind.getD [] ≠ []

namespace Line

def arguments (line : Line) : List String :=
  line.command.name :: (line.parts.flatMap Part.arguments ++ behindArguments line.behind)

def choices (line : Line) : List Choice := line.parts.filterMap Part.choice?

/-- The words in front of the divider and all the texts behind it. -/
def words (line : Line) : List String :=
  line.parts.filterMap Part.word? ++ line.behind.getD []

/-- What a command line asks for. Without a setting a method is meant and a
report is a table. -/
def invocation (line : Line) : Invocation where
  action := line.command.action ((line.choices.findSome? Choice.format?).getD .text)
  declaration := (line.choices.findSome? Choice.declaration?).getD .method
  words := line.words
  someWord := line.someWord

end Line

/-! ## Arguments by their spelling -/

namespace Argument

/-- The value behind a name, with its equals sign. -/
def valueText : Option String → String
  | none => ""
  | some value => "=" ++ value

def text : Argument → String
  | .divider => "--"
  | .long name value => "--" ++ name ++ valueText value
  | .short letter rest => "-" ++ String.singleton letter ++ rest
  | .word text => text

theorem splitAtEquals_text (characters : List Char) :
    (splitAtEquals characters).1.toList ++ (valueText (splitAtEquals characters).2).toList =
      characters := by
  have pieces :
      characters.takeWhile (· ≠ '=') ++ characters.dropWhile (· ≠ '=') = characters :=
    List.takeWhile_append_dropWhile
  cases shape : characters.dropWhile (· ≠ '=') with
  | nil =>
      rw [shape] at pieces
      rw [splitAtEquals, shape]
      simpa [valueText] using pieces
  | cons sign value =>
      have isEquals : sign = '=' := by
        have stopped := List.head?_dropWhile_not (· ≠ '=') characters
        rw [shape] at stopped
        simpa using stopped
      rw [shape, isEquals] at pieces
      rw [splitAtEquals, shape]
      simpa [valueText] using pieces

/-- An argument is not altered by telling how it is spelled. -/
theorem text_ofText (text : String) : (ofText text).text = text := by
  apply String.toList_inj.mp
  unfold ofText
  split
  case h_1 shape => simp [Argument.text, shape]
  case h_2 rest _ shape =>
    have pieces := splitAtEquals_text rest
    simpa [Argument.text, shape] using pieces
  case h_3 shape => simp [Argument.text, shape]
  case h_4 => rfl

theorem ofText_of_isPlain {text : String} (plain : IsPlain text) : ofText text = .word text := by
  rcases plain with rfl | noDash
  · rfl
  · unfold ofText
    split <;> simp_all

theorem isPlain_of_ofText {text word : String} (spelled : ofText text = .word word) :
    word = text ∧ IsPlain text := by
  have same : word = text := by
    have back := text_ofText text
    rw [spelled] at back
    exact back
  refine ⟨same, ?_⟩
  unfold ofText at spelled
  split at spelled
  case h_1 | h_2 | h_3 => simp at spelled
  case h_4 noPair noLong noShort =>
    cases shape : text.toList with
    | nil => exact Or.inr (by simp [shape])
    | cons first rest =>
        by_cases dash : first = '-'
        · cases rest with
          | nil =>
              left
              apply String.toList_inj.mp
              rw [shape, dash]
              rfl
          | cons letter others =>
              rw [dash] at shape
              exact absurd shape (noShort letter others)
        · exact Or.inr (by simpa [shape] using dash)

theorem ofText_letter (setting : Setting) (rest : String) :
    ofText ("-" ++ String.singleton setting.letter ++ rest) = .short setting.letter rest := by
  have characters :
      ("-" ++ String.singleton setting.letter ++ rest).toList =
        '-' :: setting.letter :: rest.toList := by
    simp
  rw [ofText, characters]
  cases setting <;> simp [Setting.letter]

theorem ofText_name (setting : Setting) : ofText ("--" ++ setting.name) = .long setting.name none := by
  cases setting <;> rfl

theorem ofText_nameEquals (setting : Setting) (value : String) :
    ofText ("--" ++ setting.name ++ "=" ++ value) = .long setting.name (some value) := by
  have characters :
      ("--" ++ setting.name ++ "=" ++ value).toList =
        '-' :: '-' :: (setting.name.toList ++ '=' :: value.toList) := by
    simp
  rw [ofText, characters]
  cases setting <;> simp [Setting.name, splitAtEquals]

end Argument

/-! ## The items of a part -/

def Spelling.item (setting : Setting) (value : String) : Spelling → Item
  | .letterApart | .nameApart => .apart setting (some value)
  | .letterJoined | .letterEquals | .nameEquals => .attached setting value

def Part.item {command : Command} : Part command → Item
  | .word text _ => .word text
  | .setting spelling keyword choice _ _ => spelling.item choice.setting keyword

theorem mem_settings_iff {command : Command} {setting : Setting} :
    setting ∈ command.settings ↔ (setting = .format → command = .query) := by
  cases command <;> cases setting <;> decide

theorem find?_key {Key : Type} [DecidableEq Key] {key : Setting → Key}
    (injective : Function.Injective key) {settings : List Setting} {setting : Setting}
    (member : setting ∈ settings) :
    settings.find? (fun other => key other = key setting) = some setting := by
  have present : (settings.find? fun other => key other = key setting).isSome := by
    rw [List.find?_isSome]
    exact ⟨setting, member, by simp⟩
  obtain ⟨found, shape⟩ := Option.isSome_iff_exists.mp present
  have sameKey : key found = key setting := by simpa using List.find?_some shape
  rw [shape, injective sameKey]

theorem name_injective : Function.Injective Setting.name := by
  intro left right same
  cases left <;> cases right <;> simp_all [Setting.name]

theorem letter_injective : Function.Injective Setting.letter := by
  intro left right same
  cases left <;> cases right <;> simp_all [Setting.letter]

section

variable {settings : List Setting} {setting : Setting} {text value : String}

theorem ofArguments_attached
    (named : Item.setting? settings (Argument.ofText text) = some (setting, some value))
    (rest : List String) :
    Item.ofArguments settings none (text :: rest) =
      .attached setting value :: Item.ofArguments settings none rest := by
  rw [Item.ofArguments]
  split
  case h_1 shape => simp [shape, Item.setting?] at named
  case h_2 shape => simp [shape, Item.setting?] at named
  case h_3 =>
    rw [named]
    rfl

theorem ofArguments_awaiting
    (named : Item.setting? settings (Argument.ofText text) = some (setting, none))
    (rest : List String) :
    Item.ofArguments settings none (text :: rest) =
      Item.ofArguments settings (some setting) rest := by
  rw [Item.ofArguments]
  split
  case h_1 shape => simp [shape, Item.setting?] at named
  case h_2 shape => simp [shape, Item.setting?] at named
  case h_3 =>
    rw [named]
    rfl

theorem ofArguments_answered (plain : IsPlain value) (rest : List String) :
    Item.ofArguments settings (some setting) (value :: rest) =
      .apart setting (some value) :: Item.ofArguments settings none rest := by
  rw [Item.ofArguments, Argument.ofText_of_isPlain plain]

theorem setting?_name (member : setting ∈ settings) (answer : Option String) :
    Item.setting? settings (.long setting.name answer) = some (setting, answer) := by
  rw [Item.setting?, find?_key name_injective member]
  rfl

theorem setting?_letter (member : setting ∈ settings) (rest : String) :
    Item.setting? settings (.short setting.letter rest) =
      some (setting, if rest = "" then none else some (Item.attachedValue rest)) := by
  rw [Item.setting?, find?_key letter_injective member]
  rfl

theorem attachedValue_equals (value : String) : Item.attachedValue ("=" ++ value) = value := by
  simp [Item.attachedValue]

theorem attachedValue_bare (noEquals : value.toList.head? ≠ some '=') :
    Item.attachedValue value = value := by
  unfold Item.attachedValue
  split
  case h_1 shape => simp [shape] at noEquals
  case h_2 => rfl

/-- Each spelling is read as the setting with its value. The value has to be a
word, because it may stand apart, and must not look like the start of a longer
spelling. -/
theorem ofArguments_spelling (member : setting ∈ settings) (plain : IsPlain value)
    (nonempty : value ≠ "") (noEquals : value.toList.head? ≠ some '=') (spelling : Spelling)
    (rest : List String) :
    Item.ofArguments settings none (spelling.arguments setting value ++ rest) =
      spelling.item setting value :: Item.ofArguments settings none rest := by
  cases spelling with
  | letterApart =>
      have named :
          Item.setting? settings (Argument.ofText ("-" ++ String.singleton setting.letter)) =
            some (setting, none) := by
        have letter := Argument.ofText_letter setting ""
        rw [String.append_empty] at letter
        rw [letter, setting?_letter member, if_pos rfl]
      exact (ofArguments_awaiting named _).trans (ofArguments_answered plain rest)
  | letterJoined =>
      apply ofArguments_attached
      rw [Argument.ofText_letter, setting?_letter member, if_neg nonempty,
        attachedValue_bare noEquals]
  | letterEquals =>
      apply ofArguments_attached
      have someValue : "=" ++ value ≠ "" := by simp
      rw [@String.append_assoc _ "=" value, Argument.ofText_letter, setting?_letter member,
        if_neg someValue, attachedValue_equals]
  | nameApart =>
      have named :
          Item.setting? settings (Argument.ofText ("--" ++ setting.name)) =
            some (setting, none) := by
        rw [Argument.ofText_name, setting?_name member]
      exact (ofArguments_awaiting named _).trans (ofArguments_answered plain rest)
  | nameEquals =>
      apply ofArguments_attached
      rw [Argument.ofText_nameEquals, setting?_name member]

end

theorem keyword_shape :
    ∀ entry ∈ keywords, IsPlain entry.1 ∧ entry.1 ≠ "" ∧ entry.1.toList.head? ≠ some '=' := by
  decide

theorem ofArguments_part {command : Command} (part : Part command) (rest : List String) :
    Item.ofArguments command.settings none (part.arguments ++ rest) =
      part.item :: Item.ofArguments command.settings none rest := by
  cases part with
  | word text plain =>
      simp [Part.arguments, Part.item, Item.ofArguments, Argument.ofText_of_isPlain plain]
  | setting spelling keyword choice listed taken =>
      obtain ⟨plain, nonempty, noEquals⟩ := keyword_shape _ listed
      exact ofArguments_spelling (mem_settings_iff.mpr taken) plain nonempty noEquals spelling rest

theorem ofArguments_behind (settings : List Setting) (behind : Option (List String)) :
    Item.ofArguments settings none (behindArguments behind) =
      (behind.getD []).map Item.word := by
  cases behind <;> rfl

theorem ofArguments_parts {command : Command} (parts : List (Part command))
    (behind : Option (List String)) :
    Item.ofArguments command.settings none
        (parts.flatMap Part.arguments ++ behindArguments behind) =
      parts.map Part.item ++ (behind.getD []).map Item.word := by
  induction parts with
  | nil => exact ofArguments_behind command.settings behind
  | cons part rest inductionHypothesis =>
      rw [List.flatMap_cons, List.append_assoc, ofArguments_part, inductionHypothesis]
      rfl

/-! ## No two command lines are written alike -/

/-- Two spellings that keep the value in the same place still differ in the length
of their first arguments. -/
theorem spelling_unique {setting : Setting} {value : String} {left right : Spelling}
    (sameItem : left.item setting value = right.item setting value)
    (sameHead : (left.arguments setting value).head? = (right.arguments setting value).head?) :
    left = right := by
  have longName : 4 ≤ setting.name.length := by cases setting <;> decide
  have oneDash : "-".length = 1 := rfl
  have twoDashes : "--".length = 2 := rfl
  have oneSign : "=".length = 1 := rfl
  have lengths := congrArg (Option.map String.length) sameHead
  cases left <;> cases right <;>
    simp [Spelling.item, Spelling.arguments, String.length_append] at sameItem lengths ⊢ <;> omega

theorem spelling_item_ne_word (spelling : Spelling) (setting : Setting) (value text : String) :
    spelling.item setting value ≠ .word text := by
  cases spelling <;> simp [Spelling.item]

theorem choice_unique :
    ∀ left ∈ keywords, ∀ right ∈ keywords, left.1 = right.1 → left.2 = right.2 := by
  decide

theorem part_unique {command : Command} {left right : Part command}
    {leftRest rightRest : List String}
    (same : left.arguments ++ leftRest = right.arguments ++ rightRest) :
    left = right ∧ leftRest = rightRest := by
  have sameItems := congrArg (Item.ofArguments command.settings none) same
  rw [ofArguments_part, ofArguments_part, List.cons.injEq] at sameItems
  have sameItem : left.item = right.item := sameItems.1
  cases left with
  | word leftText leftPlain =>
      cases right with
      | word rightText rightPlain =>
          simp only [Part.item, Item.word.injEq] at sameItem
          subst sameItem
          exact ⟨rfl, List.append_cancel_left same⟩
      | setting spelling _ _ _ _ => exact absurd sameItem.symm (spelling_item_ne_word spelling _ _ _)
  | setting leftSpelling leftKeyword leftChoice leftListed leftTaken =>
      cases right with
      | word _ _ => exact absurd sameItem (spelling_item_ne_word leftSpelling _ _ _)
      | setting rightSpelling rightKeyword rightChoice rightListed rightTaken =>
          have sameKeyword : leftKeyword = rightKeyword := by
            cases leftSpelling <;> cases rightSpelling <;>
              simp [Part.item, Spelling.item] at sameItem <;> exact sameItem.2
          subst sameKeyword
          have sameChoice : leftChoice = rightChoice :=
            choice_unique _ leftListed _ rightListed rfl
          subst sameChoice
          have sameHead :
              (leftSpelling.arguments leftChoice.setting leftKeyword).head? =
                (rightSpelling.arguments leftChoice.setting leftKeyword).head? := by
            have heads := congrArg List.head? same
            cases leftSpelling <;> cases rightSpelling <;> exact heads
          have sameSpelling := spelling_unique sameItem sameHead
          subst sameSpelling
          exact ⟨rfl, List.append_cancel_left same⟩

theorem part_ne_divider {command : Command} (part : Part command) (rest texts : List String) :
    part.arguments ++ rest ≠ "--" :: texts := by
  intro same
  cases part with
  | word text plain =>
      have isDivider : text = "--" := (List.cons.inj same).1
      rw [isDivider] at plain
      exact absurd plain (by decide)
  | setting spelling keyword choice listed taken =>
      have items := congrArg (Item.ofArguments command.settings none) same
      rw [ofArguments_part] at items
      have behind := ofArguments_behind command.settings (some texts)
      rw [behindArguments, ← items] at behind
      cases texts with
      | nil => exact List.cons_ne_nil _ _ behind
      | cons first others =>
          have sameItem := (List.cons.inj behind).1
          exact absurd sameItem (spelling_item_ne_word spelling _ _ _)

theorem part_arguments_ne_nil {command : Command} (part : Part command) :
    part.arguments ≠ [] := by
  cases part with
  | word text plain => exact List.cons_ne_nil _ _
  | setting spelling => cases spelling <;> exact List.cons_ne_nil _ _

theorem part_ne_behind {command : Command} (part : Part command) (rest : List String)
    (behind : Option (List String)) :
    part.arguments ++ rest ≠ behindArguments behind := by
  cases behind with
  | none => exact List.append_ne_nil_of_left_ne_nil (part_arguments_ne_nil part) rest
  | some texts => exact part_ne_divider part rest texts

theorem parts_unique {command : Command} {left right : List (Part command)}
    {leftBehind rightBehind : Option (List String)}
    (same : left.flatMap Part.arguments ++ behindArguments leftBehind =
      right.flatMap Part.arguments ++ behindArguments rightBehind) :
    left = right ∧ leftBehind = rightBehind := by
  induction left generalizing right with
  | nil =>
      cases right with
      | nil =>
          refine ⟨rfl, ?_⟩
          cases leftBehind <;> cases rightBehind <;> simp_all [behindArguments]
      | cons part rest =>
          rw [List.flatMap_cons, List.append_assoc] at same
          exact absurd same.symm (part_ne_behind part _ leftBehind)
  | cons part rest inductionHypothesis =>
      rw [List.flatMap_cons, List.append_assoc] at same
      cases right with
      | nil => exact absurd same (part_ne_behind part _ rightBehind)
      | cons other others =>
          rw [List.flatMap_cons, List.append_assoc] at same
          obtain ⟨rfl, sameRest⟩ := part_unique same
          obtain ⟨rfl, sameBehind⟩ := inductionHypothesis sameRest
          exact ⟨rfl, sameBehind⟩

theorem command_name_injective : Function.Injective Command.name := by
  intro left right same
  cases left <;> cases right <;> simp_all [Command.name]

theorem arguments_injective : Function.Injective Line.arguments := by
  intro left right same
  rcases left with ⟨leftCommand, leftParts, leftBehind, leftOnce, leftWord⟩
  rcases right with ⟨rightCommand, rightParts, rightBehind, rightOnce, rightWord⟩
  obtain ⟨sameName, sameRest⟩ := List.cons.inj same
  obtain rfl : leftCommand = rightCommand := command_name_injective sameName
  obtain ⟨rfl, rfl⟩ := parts_unique sameRest
  rfl

end AccessMask.CommandLine
