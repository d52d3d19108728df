import AccessMask.Proofs.CommandLineGrammar

/-!
# Reading command lines

The reader accepts the command lines of the grammar and no others, and takes
from each what it asks for. An accepted argument list is taken apart from the
left: whatever stands in front of the divider is a word or a setting with its
value, and reading goes on behind it.
-/

namespace AccessMask.CommandLine

/-! ## Making settings -/

theorem ofKeyword?_eq_some_iff {keyword : String} {kind : Declaration} :
    Declaration.ofKeyword? keyword = some kind ↔ (keyword, .declaration kind) ∈ keywords := by
  constructor
  · intro read
    unfold Declaration.ofKeyword? at read
    split at read
    case isTrue either =>
      rcases either with rfl | rfl <;> cases read <;> decide
    case isFalse =>
      split at read
      case isTrue field => cases read; subst field; decide
      case isFalse =>
        split at read
        case isTrue method => cases read; subst method; decide
        case isFalse => simp at read
  · intro listed
    have checked :
        ∀ entry ∈ keywords, ∀ other ∈ entry.2.declaration?,
          Declaration.ofKeyword? entry.1 = some other := by
      decide
    exact checked _ listed kind rfl

theorem ofName?_eq_some_iff {keyword : String} {layout : Format} :
    Format.ofName? keyword = some layout ↔ (keyword, .format layout) ∈ keywords := by
  constructor
  · intro read
    unfold Format.ofName? at read
    split at read
    case isTrue text => cases read; subst text; decide
    case isFalse =>
      split at read
      case isTrue yaml => cases read; subst yaml; decide
      case isFalse => simp at read
  · intro listed
    have checked :
        ∀ entry ∈ keywords, ∀ other ∈ entry.2.format?,
          Format.ofName? entry.1 = some other := by
      decide
    exact checked _ listed layout rfl

def Setting.read? (value : String) : Setting → Option Choice
  | .declaration => (Declaration.ofKeyword? value).map .declaration
  | .format => (Format.ofName? value).map .format

theorem setting_read?_eq_some_iff {setting : Setting} {value : String} {choice : Choice} :
    setting.read? value = some choice ↔ (value, choice) ∈ keywords ∧ choice.setting = setting := by
  cases setting <;> cases choice <;>
    simp [Setting.read?, Choice.setting, ofKeyword?_eq_some_iff, ofName?_eq_some_iff]

namespace Choices

def isMade (choices : Choices) : Setting → Bool
  | .declaration => choices.declaration.isSome
  | .format => choices.format.isSome

def make (choices : Choices) : Choice → Choices
  | .declaration kind => { choices with declaration := some kind }
  | .format layout => { choices with format := some layout }

theorem choose_eq (choices : Choices) (setting : Setting) (value : String) :
    choices.choose setting value =
      if choices.isMade setting then .error .repeatedSetting
      else
        match setting.read? value with
        | some choice => .ok (choices.make choice)
        | none => .error .invalidValue := by
  cases setting with
  | declaration =>
      rw [choose, Setting.read?]
      cases Declaration.ofKeyword? value <;> rfl
  | format =>
      rw [choose, Setting.read?]
      cases Format.ofName? value <;> rfl

/-- All that making a setting can do when it is not refused. -/
theorem choose_eq_ok_iff {choices next : Choices} {setting : Setting} {value : String} :
    choices.choose setting value = .ok next ↔
      choices.isMade setting = false ∧
        ∃ choice, (value, choice) ∈ keywords ∧ choice.setting = setting ∧
          choices.make choice = next := by
  simp only [choose_eq, ← and_assoc, ← setting_read?_eq_some_iff]
  cases choices.isMade setting with
  | true => simp
  | false => cases setting.read? value <;> simp

theorem choose_keyword {choices next : Choices} {keyword : String} {choice : Choice}
    (listed : (keyword, choice) ∈ keywords) :
    choices.choose choice.setting keyword = .ok next ↔
      choices.isMade choice.setting = false ∧ choices.make choice = next := by
  rw [choose_eq_ok_iff]
  constructor
  · rintro ⟨notMade, other, otherListed, _, rfl⟩
    have same : other = choice := choice_unique _ otherListed _ listed rfl
    rw [same]
    exact ⟨notMade, rfl⟩
  · rintro ⟨notMade, rfl⟩
    exact ⟨notMade, choice, listed, rfl, rfl⟩

/-! ## Making all settings -/

variable {choices final : Choices} {setting : Setting} {items : List Item}

theorem bind_eq_ok_iff {Read Result : Type} {reading : Except Refusal Read}
    {next : Read → Except Refusal Result} {result : Result} :
    (reading >>= next) = .ok result ↔ ∃ value, reading = .ok value ∧ next value = .ok result := by
  cases reading <;> simp [bind, Except.bind]

theorem chooseAll_attached {value : String} :
    choices.chooseAll (.attached setting value :: items) = .ok final ↔
      ∃ next, choices.choose setting value = .ok next ∧ next.chooseAll items = .ok final := by
  rw [chooseAll, bind_eq_ok_iff]

theorem overtaking_of_ok (accepted : choices.chooseAll items = .ok final) :
    overtaking items = none := by
  unfold overtaking
  split
  case h_1 => rfl
  case h_2 => simp [chooseAll] at accepted
  case h_3 => rfl

theorem chooseAll_apart {answer : Option String} :
    choices.chooseAll (.apart setting answer :: items) = .ok final ↔
      ∃ value next, answer = some value ∧ choices.choose setting value = .ok next ∧
        next.chooseAll items = .ok final := by
  constructor
  · intro accepted
    unfold chooseAll at accepted
    split at accepted
    case h_1 | h_2 => simp at accepted
    case h_3 value _ =>
      obtain ⟨next, chosen, rest⟩ := bind_eq_ok_iff.mp accepted
      exact ⟨value, next, rfl, chosen, rest⟩
  · rintro ⟨value, next, rfl, chosen, rest⟩
    have notOvertaken := overtaking_of_ok rest
    unfold chooseAll
    rw [notOvertaken]
    exact bind_eq_ok_iff.mpr ⟨next, chosen, rest⟩

theorem chooseAll_spelling {value : String} (spelling : Spelling) :
    choices.chooseAll (spelling.item setting value :: items) = .ok final ↔
      ∃ next, choices.choose setting value = .ok next ∧ next.chooseAll items = .ok final := by
  cases spelling with
  | letterApart | nameApart => simp [Spelling.item, chooseAll_apart]
  | letterJoined | letterEquals | nameEquals => exact chooseAll_attached

theorem chooseAll_words (texts : List String) :
    choices.chooseAll (texts.map Item.word) = .ok choices := by
  induction texts with
  | nil => rfl
  | cons text rest inductionHypothesis => exact inductionHypothesis

/-- The settings made so far and those that follow; an earlier one is kept. -/
def extend (choices : Choices) (made : List Choice) : Choices where
  declaration := choices.declaration.or (made.findSome? Choice.declaration?)
  format := choices.format.or (made.findSome? Choice.format?)

theorem extend_make {choice : Choice} (notMade : choices.isMade choice.setting = false)
    (made : List Choice) :
    (choices.make choice).extend made = choices.extend (choice :: made) := by
  cases choice <;>
    simp_all [make, extend, isMade, Choice.setting, Choice.declaration?, Choice.format?,
      List.findSome?_cons]

theorem isMade_make (choice : Choice) :
    (choices.make choice).isMade setting = (choices.isMade setting || setting == choice.setting) := by
  cases choice <;> cases setting <;> simp [make, isMade, Choice.setting]

theorem notMade_make_iff {choice : Choice} {made : List Setting} :
    (∀ setting ∈ made, (choices.make choice).isMade setting = false) ↔
      (∀ setting ∈ made, choices.isMade setting = false) ∧ choice.setting ∉ made := by
  simp only [isMade_make, Bool.or_eq_false_iff, beq_eq_false_iff_ne]
  constructor
  · intro notMade
    refine ⟨fun setting member => (notMade setting member).1, ?_⟩
    intro again
    exact (notMade _ again).2 rfl
  · rintro ⟨notMade, notAgain⟩ setting member
    refine ⟨notMade setting member, ?_⟩
    intro same
    rw [same] at member
    exact notAgain member

/-- The settings of the parts are made one by one. None may be made twice, nor
again if it was made before. -/
theorem chooseAll_parts {command : Command} (parts : List (Part command)) (texts : List String) :
    choices.chooseAll (parts.map Part.item ++ texts.map Item.word) = .ok final ↔
      ((parts.filterMap Part.choice?).map Choice.setting).Nodup ∧
        (∀ setting ∈ (parts.filterMap Part.choice?).map Choice.setting,
          choices.isMade setting = false) ∧
        choices.extend (parts.filterMap Part.choice?) = final := by
  induction parts generalizing choices with
  | nil =>
      rw [List.map_nil, List.nil_append, chooseAll_words]
      simp [extend]
  | cons part rest inductionHypothesis =>
      cases part with
      | word text plain => exact inductionHypothesis
      | setting spelling keyword choice listed taken =>
          have step :
              choices.chooseAll (spelling.item choice.setting keyword ::
                  (rest.map Part.item ++ texts.map Item.word)) = .ok final ↔
                choices.isMade choice.setting = false ∧
                  (choices.make choice).chooseAll
                    (rest.map Part.item ++ texts.map Item.word) = .ok final := by
            simp only [chooseAll_spelling, choose_keyword listed, and_assoc, exists_and_left,
              exists_eq_left']
          have chosen :
              (Part.setting spelling keyword choice listed taken :: rest).filterMap Part.choice? =
                choice :: rest.filterMap Part.choice? :=
            List.filterMap_cons_some rfl
          simp only [chosen, List.map_cons, List.nodup_cons, List.forall_mem_cons,
            List.cons_append]
          refine step.trans ?_
          constructor
          · rintro ⟨notMade, accepted⟩
            obtain ⟨once, restNotMade, extended⟩ := inductionHypothesis.mp accepted
            obtain ⟨notMadeBefore, notAgain⟩ := notMade_make_iff.mp restNotMade
            rw [extend_make notMade] at extended
            exact ⟨⟨notAgain, once⟩, ⟨notMade, notMadeBefore⟩, extended⟩
          · rintro ⟨⟨notAgain, once⟩, ⟨notMade, notMadeBefore⟩, extended⟩
            refine ⟨notMade, inductionHypothesis.mpr ⟨once, ?_, ?_⟩⟩
            · exact notMade_make_iff.mpr ⟨notMadeBefore, notAgain⟩
            · rw [extend_make notMade]
              exact extended

end Choices

/-! ## Taking an argument list apart -/

section

variable {settings : List Setting} {setting : Setting} {text value : String}

theorem member_and_key {Key : Type} [DecidableEq Key] {key : Setting → Key} {sought : Key}
    (found : settings.find? (fun other => key other = sought) = some setting) :
    setting ∈ settings ∧ key setting = sought :=
  ⟨List.mem_of_find?_eq_some found, by simpa using List.find?_some found⟩

theorem attachedValue_or (rest : String) :
    rest = Item.attachedValue rest ∨ rest = "=" ++ Item.attachedValue rest := by
  unfold Item.attachedValue
  split
  case h_1 value shape =>
    right
    apply String.toList_inj.mp
    simp [shape]
  case h_2 => exact Or.inl rfl

/-- All that an option can be that names a setting. -/
theorem setting?_cases {argument : Argument} {answer : Option String}
    (named : Item.setting? settings argument = some (setting, answer)) :
    setting ∈ settings ∧
      (argument = .long setting.name answer ∨
        ∃ rest, argument = .short setting.letter rest ∧
          answer = if rest = "" then none else some (Item.attachedValue rest)) := by
  cases argument with
  | divider | word => simp [Item.setting?] at named
  | long name value =>
      simp only [Item.setting?, Option.map_eq_some_iff, Prod.mk.injEq] at named
      obtain ⟨_, found, rfl, rfl⟩ := named
      obtain ⟨member, rfl⟩ := member_and_key found
      exact ⟨member, Or.inl rfl⟩
  | short letter rest =>
      simp only [Item.setting?, Option.map_eq_some_iff, Prod.mk.injEq] at named
      obtain ⟨_, found, rfl, answered⟩ := named
      obtain ⟨member, rfl⟩ := member_and_key found
      exact ⟨member, Or.inr ⟨rest, rfl, answered.symm⟩⟩

theorem exists_attached_spelling
    (named : Item.setting? settings (Argument.ofText text) = some (setting, some value)) :
    setting ∈ settings ∧ ∃ spelling : Spelling, spelling.arguments setting value = [text] := by
  have back := Argument.text_ofText text
  obtain ⟨member, long | ⟨rest, short, answered⟩⟩ := setting?_cases named
  · refine ⟨member, .nameEquals, ?_⟩
    rw [← back, long, Spelling.arguments, Argument.text, Argument.valueText, String.append_assoc]
  · have someValue : rest ≠ "" := by
      intro empty
      simp [empty] at answered
    rw [if_neg someValue, Option.some.injEq] at answered
    refine ⟨member, ?_⟩
    rcases attachedValue_or rest with bare | equals
    · rw [← answered] at bare
      exact ⟨.letterJoined, by rw [← back, short, bare]; rfl⟩
    · rw [← answered] at equals
      refine ⟨.letterEquals, ?_⟩
      rw [← back, short, equals, Spelling.arguments, Argument.text, String.append_assoc]

theorem exists_apart_spelling
    (named : Item.setting? settings (Argument.ofText text) = some (setting, none)) :
    setting ∈ settings ∧
      ∃ spelling : Spelling, ∀ value, spelling.arguments setting value = [text, value] := by
  have back := Argument.text_ofText text
  obtain ⟨member, long | ⟨rest, short, answered⟩⟩ := setting?_cases named
  · refine ⟨member, .nameApart, ?_⟩
    intro value
    rw [← back, long, Spelling.arguments, Argument.text, Argument.valueText, String.append_empty]
  · have noValue : rest = "" := by
      by_contra someValue
      simp [someValue] at answered
    refine ⟨member, .letterApart, ?_⟩
    intro value
    rw [← back, short, noValue, Spelling.arguments, Argument.text, String.append_empty]

end

variable {command : Command} {choices final : Choices}

theorem unanswered_ne_ok (setting : Setting) (items : List Item) :
    choices.chooseAll (Item.unanswered (some setting) ++ items) ≠ .ok final := by
  intro accepted
  obtain ⟨_, _, answered, _⟩ := Choices.chooseAll_apart.mp accepted
  simp at answered

theorem exists_answer {settings : List Setting} {setting : Setting} {arguments : List String}
    (accepted :
      choices.chooseAll (Item.ofArguments settings (some setting) arguments) = .ok final) :
    ∃ value rest, arguments = value :: rest ∧ IsPlain value := by
  cases arguments with
  | nil => exact absurd accepted (unanswered_ne_ok setting [])
  | cons value rest =>
      refine ⟨value, rest, rfl, ?_⟩
      rw [Item.ofArguments] at accepted
      split at accepted
      case h_1 => exact absurd accepted (unanswered_ne_ok setting _)
      case h_2 shape => exact (Argument.isPlain_of_ofText shape).2
      case h_3 =>
        split at accepted
        case h_1 | h_2 | h_3 => exact absurd accepted (unanswered_ne_ok setting _)

/-- An accepted argument list starts with a part or with the divider. -/
theorem exists_part {text : String} {rest : List String} (notDivider : text ≠ "--")
    (accepted :
      choices.chooseAll (Item.ofArguments command.settings none (text :: rest)) = .ok final) :
    ∃ (part : Part command) (others : List String), text :: rest = part.arguments ++ others := by
  cases named : Item.setting? command.settings (Argument.ofText text) with
  | some pair =>
      rcases pair with ⟨setting, answer⟩
      cases answer with
      | some value =>
          obtain ⟨member, spelling, written⟩ := exists_attached_spelling named
          rw [ofArguments_attached named, Choices.chooseAll_attached] at accepted
          obtain ⟨_, chosen, _⟩ := accepted
          obtain ⟨_, choice, listed, rfl, _⟩ := Choices.choose_eq_ok_iff.mp chosen
          refine ⟨.setting spelling value choice listed (mem_settings_iff.mp member), rest, ?_⟩
          rw [Part.arguments, written]
          rfl
      | none =>
          obtain ⟨member, spelling, written⟩ := exists_apart_spelling named
          rw [ofArguments_awaiting named] at accepted
          obtain ⟨value, others, rfl, plain⟩ := exists_answer accepted
          rw [ofArguments_answered plain, Choices.chooseAll_apart] at accepted
          obtain ⟨_, _, sameValue, chosen, _⟩ := accepted
          obtain rfl := Option.some.inj sameValue
          obtain ⟨_, choice, listed, rfl, _⟩ := Choices.choose_eq_ok_iff.mp chosen
          refine ⟨.setting spelling value choice listed (mem_settings_iff.mp member), others, ?_⟩
          rw [Part.arguments, written]
          rfl
  | none =>
      rw [Item.ofArguments] at accepted
      split at accepted
      case h_1 shape =>
        have back := Argument.text_ofText text
        rw [shape] at back
        exact absurd back.symm notDivider
      case h_2 shape =>
        exact ⟨.word text (Argument.isPlain_of_ofText shape).2, rest, rfl⟩
      case h_3 =>
        rw [named] at accepted
        simp [Item.unanswered, Choices.chooseAll] at accepted

theorem chooseAll_rest {part : Part command} {items : List Item}
    (accepted : choices.chooseAll (part.item :: items) = .ok final) :
    ∃ next : Choices, next.chooseAll items = .ok final := by
  cases part with
  | word text plain => exact ⟨choices, accepted⟩
  | setting spelling keyword choice listed taken =>
      obtain ⟨next, _, rest⟩ := (Choices.chooseAll_spelling spelling).mp accepted
      exact ⟨next, rest⟩

/-- An accepted argument list is made of parts, and behind them of a divider and
texts or of nothing. A part takes one argument or two, so the induction is on the
length. -/
theorem exists_parts {arguments : List String}
    (accepted : choices.chooseAll (Item.ofArguments command.settings none arguments) = .ok final) :
    ∃ (parts : List (Part command)) (behind : Option (List String)),
      arguments = parts.flatMap Part.arguments ++ behindArguments behind := by
  induction size : arguments.length using Nat.strongRecOn generalizing arguments choices with
  | _ length inductionHypothesis =>
      cases arguments with
      | nil => exact ⟨[], none, rfl⟩
      | cons text rest =>
          by_cases divider : text = "--"
          · exact ⟨[], some rest, by rw [divider]; rfl⟩
          · obtain ⟨part, others, shape⟩ := exists_part divider accepted
            rw [shape, ofArguments_part] at accepted
            obtain ⟨next, restAccepted⟩ := chooseAll_rest accepted
            have shorter : others.length < length := by
              have someArgument := List.length_pos_iff.mpr (part_arguments_ne_nil part)
              have lengths := congrArg List.length shape
              rw [List.length_append] at lengths
              omega
            obtain ⟨parts, behind, rfl⟩ :=
              inductionHypothesis others.length shorter restAccepted rfl
            exact ⟨part :: parts, behind, by rw [shape, List.flatMap_cons, List.append_assoc]⟩

/-! ## Words -/

theorem words_items (parts : List (Part command)) (texts : List String) :
    Item.words (parts.map Part.item ++ texts.map Item.word) =
      parts.filterMap Part.word? ++ texts := by
  induction parts with
  | nil =>
      rw [List.map_nil, List.nil_append, Item.words, List.filterMap_map]
      exact List.filterMap_some
  | cons part rest inductionHypothesis =>
      cases part with
      | word text plain => exact congrArg (text :: ·) inductionHypothesis
      | setting spelling => cases spelling <;> exact inductionHypothesis

/-! ## Command lines -/

theorem command_ofName?_eq_some_iff {name : String} :
    Command.ofName? name = some command ↔ name = command.name := by
  constructor
  · intro read
    unfold Command.ofName? at read
    split at read
    case isTrue query => cases read; exact query
    case isFalse =>
      split at read
      case isTrue describe => cases read; exact describe
      case isFalse =>
        split at read
        case isTrue encode => cases read; exact encode
        case isFalse => simp at read
  · rintro rfl
    cases command <;> rfl

theorem read_eq_ok_iff_items {arguments : List String} {invocation : Invocation} :
    Invocation.read arguments = .ok invocation ↔
      ∃ (command : Command) (rest : List String), arguments = command.name :: rest ∧
        Invocation.ofItems command (Item.ofArguments command.settings none rest) =
          .ok invocation := by
  constructor
  · intro accepted
    unfold Invocation.read at accepted
    split at accepted
    case h_1 => simp at accepted
    case h_2 first rest =>
      split at accepted
      case h_1 => simp at accepted
      case h_2 name shape =>
        obtain ⟨rfl, _⟩ := Argument.isPlain_of_ofText shape
        split at accepted
        case isTrue => simp at accepted
        case isFalse =>
          split at accepted
          case h_1 command named =>
            rw [command_ofName?_eq_some_iff.mp named]
            exact ⟨command, rest, rfl, accepted⟩
          case h_2 => simp at accepted
      case h_3 => simp at accepted
  · rintro ⟨command, rest, rfl, accepted⟩
    rw [← accepted]
    cases command <;> rfl

theorem ofItems_eq_ok_iff {items : List Item} {invocation : Invocation} :
    Invocation.ofItems command items = .ok invocation ↔
      ∃ final, Choices.initial.chooseAll items = .ok final ∧
        ∃ someWord : Item.words items ≠ [],
          invocation =
            ⟨command.action (final.format.getD .text), final.declaration.getD .method,
              Item.words items, someWord⟩ := by
  rw [Invocation.ofItems, Choices.bind_eq_ok_iff]
  generalize Item.words items = words
  cases words with
  | nil => simp
  | cons word rest => simp [eq_comm]

/-- Reading a command line of the grammar gives what it asks for. -/
theorem read_line (line : Line) : Invocation.read line.arguments = .ok line.invocation := by
  refine read_eq_ok_iff_items.mpr ⟨line.command, _, rfl, ?_⟩
  rw [ofArguments_parts, ofItems_eq_ok_iff, words_items]
  refine ⟨Choices.initial.extend line.choices, ?_, line.someWord, ?_⟩
  · refine Choices.chooseAll_parts line.parts _ |>.mpr ⟨line.atMostOnce, ?_, rfl⟩
    intro setting _
    cases setting <;> rfl
  · rfl

theorem exists_line {arguments : List String} {invocation : Invocation}
    (accepted : Invocation.read arguments = .ok invocation) :
    ∃ line : Line, line.arguments = arguments ∧ line.invocation = invocation := by
  obtain ⟨command, rest, rfl, built⟩ := read_eq_ok_iff_items.mp accepted
  obtain ⟨final, chosen, someWord, _⟩ := ofItems_eq_ok_iff.mp built
  obtain ⟨parts, behind, rfl⟩ := exists_parts chosen
  rw [ofArguments_parts] at chosen someWord
  rw [words_items] at someWord
  obtain ⟨once, _, _⟩ := (Choices.chooseAll_parts parts _).mp chosen
  let line : Line := ⟨command, parts, behind, once, someWord⟩
  exact ⟨line, rfl, Except.ok.inj ((read_line line).symm.trans accepted)⟩

/-- The accepted argument lists are the command lines of the grammar, each read
as what it asks for, and no two command lines have the same arguments. -/
theorem command_line_exact :
    Function.Injective Line.arguments ∧
      ∀ (arguments : List String) (invocation : Invocation),
        Invocation.read arguments = .ok invocation ↔
          ∃ line : Line, line.arguments = arguments ∧ line.invocation = invocation := by
  refine ⟨arguments_injective, ?_⟩
  intro arguments invocation
  constructor
  · exact exists_line
  · rintro ⟨line, rfl, rfl⟩
    exact read_line line

theorem command_line_exact_mixed :
    Invocation.read ["query", "-f=yaml", "public", "--kind", "class", "-", "--", "--kind"] =
        .ok ⟨.query .yaml, .type, ["public", "-", "--kind"], by decide⟩ ∧
      ¬ ∃ line : Line, line.arguments = ["query", "public", "-k"] := by
  constructor
  · let parts : List (Part .query) :=
      [.setting .letterEquals "yaml" (.format .yaml) (by decide) (by decide),
        .word "public" (by decide),
        .setting .nameApart "class" (.declaration .type) (by decide) (by decide),
        .word "-" (by decide)]
    have once : ((parts.filterMap Part.choice?).map Choice.setting).Nodup := by decide
    let line : Line := ⟨.query, parts, some ["--kind"], once, by decide⟩
    exact (command_line_exact.2 _ _).mpr ⟨line, rfl, rfl⟩
  · rintro ⟨line, written⟩
    have accepted := (command_line_exact.2 _ _).mpr ⟨line, written, rfl⟩
    have refused : Invocation.read ["query", "public", "-k"] = .error .invalidValue := rfl
    rw [refused] at accepted
    cases accepted

end AccessMask.CommandLine
