import AccessMask.Proofs.OutputReading
import AccessMask.Proofs.ReportReading

/-!
# Laws of outcomes

An outcome depends on the words of a command line only through their terms. How
the words are cut, what stands between the terms and where the settings stand
leaves no trace. And the actions agree: on one expression all of them fail with
the same line, or all of them succeed and tell of the same mask.
-/

namespace AccessMask.CommandLine

open Expression Text

/-! ## What an outcome depends on -/

/-- What an action leaves behind once its terms were read. -/
def Action.outcome (action : Action) (declaration : Declaration) : Except Fault Mask → Outcome
  | .ok mask => ⟨0, action.output declaration mask, ""⟩
  | .error fault => ⟨1, "", "Error: " ++ fault.message ++ "\n"⟩

theorem Invocation.outcome_eq (invocation : Invocation) :
    invocation.outcome = invocation.action.outcome invocation.declaration invocation.mask := by
  rw [Invocation.outcome]
  cases invocation.mask <;> rfl

theorem Invocation.mask_eq (invocation : Invocation) :
    invocation.mask =
      unionMask invocation.declaration (invocation.words.flatMap terms) := by
  have sameTerms : terms invocation.expression = invocation.words.flatMap terms :=
    terms_intercalate_eq_flatMap invocation.words
  rw [Invocation.mask, Expression.mask, sameTerms]

/-- Two accepted command lines that ask for the same action on the same kind of
declaration, and whose words have the same terms one after the other, leave the
same behind: what the action makes of these terms. -/
theorem outcome_of_same_terms {leftArguments rightArguments : List String}
    {left right : Invocation} (leftRead : Invocation.read leftArguments = .ok left)
    (rightRead : Invocation.read rightArguments = .ok right)
    (sameAction : left.action = right.action) (sameKind : left.declaration = right.declaration)
    (sameTerms : left.words.flatMap terms = right.words.flatMap terms) :
    ∃ outcome,
      outcome =
          left.action.outcome left.declaration
            (unionMask left.declaration (left.words.flatMap terms)) ∧
        Yields leftArguments outcome ∧ Yields rightArguments outcome := by
  refine ⟨left.outcome, ?_, ⟨left, leftRead, rfl⟩, ⟨right, rightRead, ?_⟩⟩
  · rw [left.outcome_eq, left.mask_eq]
  · rw [left.outcome_eq, left.mask_eq, right.outcome_eq, right.mask_eq, sameAction, sameKind,
      sameTerms]

theorem outcome_of_same_terms_scattered :
    (∃ report,
        Yields ["query", "public 0x8 volatile", "-f=yaml", "-k", "field"] report ∧
          Yields
            ["query", "-kfield", "public|", "--format", "yaml", "", "--", ",0x8\u3000volatile"]
            report) ∧
      Yields ["encode", "final native x"] ⟨1, "", "Error: Unknown method modifier: \"x\"\n"⟩ ∧
      Yields ["encode", "|", "final,native", "--", "x"]
        ⟨1, "", "Error: Unknown method modifier: \"x\"\n"⟩ := by
  have scattered :
      Invocation.read
          ["query", "-kfield", "public|", "--format", "yaml", "", "--", ",0x8\u3000volatile"] =
        .ok ⟨.query .yaml, .field, ["public|", "", ",0x8\u3000volatile"], by decide⟩ := by
    decide
  have plain :
      Invocation.read ["query", "public 0x8 volatile", "-f=yaml", "-k", "field"] =
        .ok ⟨.query .yaml, .field, ["public 0x8 volatile"], by decide⟩ := by
    decide
  have cut :
      Invocation.read ["encode", "|", "final,native", "--", "x"] =
        .ok ⟨.encode, .method, ["|", "final,native", "x"], by decide⟩ := by
    decide
  have whole :
      Invocation.read ["encode", "final native x"] =
        .ok ⟨.encode, .method, ["final native x"], by decide⟩ := by
    decide
  have message :
      Fault.message (.unknownModifier "x" .method) = "Unknown method modifier: \"x\"" := by
    decide +kernel
  have unknown :
      unionMask .method (["final native x"].flatMap terms) =
        .error (.unknownModifier "x" .method) := rfl
  obtain ⟨report, _, plainYields, scatteredYields⟩ :=
    outcome_of_same_terms plain scattered rfl rfl rfl
  obtain ⟨refusal, refusalKnown, wholeYields, cutYields⟩ :=
    outcome_of_same_terms whole cut rfl rfl rfl
  rw [unknown, Action.outcome, message] at refusalKnown
  rw [refusalKnown] at wholeYields cutYields
  exact ⟨⟨report, plainYields, scatteredYields⟩, wholeYields, cutYields⟩

/-! ## The actions agree -/

/-- The argument lists that set the kind of declaration, for a query perhaps the
layout as well, and give all words behind the divider. -/
inductive CallsBehind (words : List String) : Action → Declaration → List String → Prop
  | kind (command : Command) {keyword : String} {kind : Declaration} (spelling : Spelling) :
      (keyword, .declaration kind) ∈ keywords →
      CallsBehind words (command.action .text) kind
        (command.name :: (spelling.arguments .declaration keyword ++ "--" :: words))
  | kindAndFormat {keyword name : String} {kind : Declaration} {layout : Format}
      (spelling layoutSpelling : Spelling) :
      (keyword, .declaration kind) ∈ keywords →
      (name, .format layout) ∈ keywords →
      CallsBehind words (.query layout) kind
        ("query" ::
          (spelling.arguments .declaration keyword ++ layoutSpelling.arguments .format name ++
            "--" :: words))
  | formatAndKind {keyword name : String} {kind : Declaration} {layout : Format}
      (spelling layoutSpelling : Spelling) :
      (keyword, .declaration kind) ∈ keywords →
      (name, .format layout) ∈ keywords →
      CallsBehind words (.query layout) kind
        ("query" ::
          (layoutSpelling.arguments .format name ++ spelling.arguments .declaration keyword ++
            "--" :: words))

section

variable {words options : List String} (someWord : words ≠ [])

include someWord

/-- Settings in front of the divider and words behind it are read as such. -/
theorem read_behind {command : Command} (parts : List (Part command)) {choices : List Choice}
    (written : parts.flatMap Part.arguments = options)
    (chosen : parts.filterMap Part.choice? = choices) (noWord : parts.filterMap Part.word? = [])
    (once : (choices.map Choice.setting).Nodup) :
    Invocation.read (command.name :: (options ++ "--" :: words)) =
      .ok
        ⟨command.action ((choices.findSome? Choice.format?).getD .text),
          (choices.findSome? Choice.declaration?).getD .method, words, someWord⟩ := by
  have allWords : parts.filterMap Part.word? ++ (some words).getD [] = words := by
    rw [noWord]
    rfl
  exact read_parts written chosen allWords once someWord

theorem read_of_callsBehind {arguments : List String} {action : Action}
    {declaration : Declaration} (calls : CallsBehind words action declaration arguments) :
    Invocation.read arguments = .ok ⟨action, declaration, words, someWord⟩ := by
  cases calls with
  | @kind command keyword _ spelling listed =>
      let kindPart : Part command :=
        .setting spelling keyword (.declaration declaration) listed (by simp [Choice.setting])
      have written :
          [kindPart].flatMap Part.arguments = spelling.arguments .declaration keyword :=
        List.append_nil _
      exact read_behind someWord [kindPart] written rfl rfl (List.nodup_singleton _)
  | @kindAndFormat keyword name _ layout spelling layoutSpelling listed formatListed =>
      let kindPart : Part .query :=
        .setting spelling keyword (.declaration declaration) listed (fun _ => rfl)
      let formatPart : Part .query :=
        .setting layoutSpelling name (.format layout) formatListed (fun _ => rfl)
      have written :
          [kindPart, formatPart].flatMap Part.arguments =
            spelling.arguments .declaration keyword ++ layoutSpelling.arguments .format name :=
        congrArg _ (List.append_nil _)
      have once : ([.declaration declaration, .format layout].map Choice.setting).Nodup := by
        simp [Choice.setting]
      exact read_behind someWord [kindPart, formatPart] written rfl rfl once
  | @formatAndKind keyword name _ layout spelling layoutSpelling listed formatListed =>
      let kindPart : Part .query :=
        .setting spelling keyword (.declaration declaration) listed (fun _ => rfl)
      let formatPart : Part .query :=
        .setting layoutSpelling name (.format layout) formatListed (fun _ => rfl)
      have written :
          [formatPart, kindPart].flatMap Part.arguments =
            layoutSpelling.arguments .format name ++ spelling.arguments .declaration keyword :=
        congrArg _ (List.append_nil _)
      have once : ([.format layout, .declaration declaration].map Choice.setting).Nodup := by
        simp [Choice.setting]
      exact read_behind someWord [formatPart, kindPart] written rfl rfl once

theorem yields_of_callsBehind {arguments : List String} {action : Action}
    {declaration : Declaration} (calls : CallsBehind words action declaration arguments) :
    Yields arguments
      (action.outcome declaration (Expression.mask declaration (" ".intercalate words))) :=
  ⟨_, read_of_callsBehind someWord calls, Invocation.outcome_eq _⟩

end

/-- On words behind the divider either every action fails with one and the same
line and writes nothing else, or every action succeeds. Then `encode` and
`describe` write a line each, and a query in either layout shows the numeral of
the first, the text of the second and the predicates of the same mask. -/
theorem actions_agree (declaration : Declaration) {words : List String} (someWord : words ≠ []) :
    (∃ fault line,
        Expression.mask declaration (" ".intercalate words) = .error fault ∧
          line = "Error: " ++ fault.message ∧ '\n' ∉ line.toList ∧
          ∀ action arguments, CallsBehind words action declaration arguments →
            Yields arguments ⟨1, "", line ++ "\n"⟩) ∨
      ∃ mask numerals description,
        Expression.mask declaration (" ".intercalate words) = .ok mask ∧
          numerals = Numeral.paddedHex mask ++ " " ++ Numeral.decimal mask ∧
          description = Description.text ⟨mask, declaration⟩ ∧
          '\n' ∉ numerals.toList ∧ '\n' ∉ description.toList ∧
          (∀ arguments, CallsBehind words .encode declaration arguments →
            Yields arguments ⟨0, numerals ++ "\n", ""⟩) ∧
          (∀ arguments, CallsBehind words .describe declaration arguments →
            Yields arguments ⟨0, description ++ "\n", ""⟩) ∧
          ∀ layout arguments, CallsBehind words (.query layout) declaration arguments →
            ∃ report,
              Yields arguments ⟨0, report, ""⟩ ∧
                layout.readOutput report =
                  layout.labels.zip
                    (declaration.name :: Numeral.paddedHex mask :: description ::
                      Inspection.Predicate.all.map fun predicate =>
                        Report.truthText ((Inspection.ofMask mask).satisfies predicate)) := by
  cases reading : Expression.mask declaration (" ".intercalate words) with
  | error fault =>
      left
      have unbroken : '\n' ∉ ("Error: " ++ fault.message).toList :=
        not_mem_of_isPrintable
          (isPrintable_append (isPrintable_of_ascii rfl) (isPrintable_message fault)) rfl
      refine ⟨fault, "Error: " ++ fault.message, rfl, rfl, unbroken, ?_⟩
      intro action arguments calls
      have yields := yields_of_callsBehind someWord calls
      rw [reading] at yields
      exact yields
  | ok mask =>
      right
      have yields : ∀ action arguments, CallsBehind words action declaration arguments →
          Yields arguments ⟨0, action.output declaration mask, ""⟩ := by
        intro action arguments calls
        have yields := yields_of_callsBehind someWord calls
        rw [reading] at yields
        exact yields
      refine ⟨mask, encoded mask, Description.text ⟨mask, declaration⟩, rfl, rfl, rfl, ?_, ?_,
        yields .encode, yields .describe, ?_⟩
      · exact not_mem_of_isBare (isBare_encoded mask) rfl
      · exact not_mem_of_isBare (isBare_description mask declaration) rfl
      · intro layout arguments calls
        exact ⟨_, yields (.query layout) arguments calls, layout.readOutput_query declaration mask⟩

theorem actions_agree_volatile :
    Yields ["encode", "-kfield", "--", "0x8", "volatile"] ⟨0, "0x0048 72\n", ""⟩ ∧
      Yields ["describe", "--kind", "field", "--", "0x8", "volatile"]
        ⟨0, "static volatile\n", ""⟩ ∧
      (∃ report,
        Yields ["query", "-fyaml", "-k=field", "--", "0x8", "volatile"] ⟨0, report, ""⟩ ∧
          Format.yaml.readOutput report =
            [("kind", "field"), ("flags", "0x0048"), ("modifiers", "static volatile"),
              ("is_private", "false"), ("is_not_private", "true"), ("is_final", "false"),
              ("is_abstract", "false"), ("is_interface", "false"), ("is_static", "true"),
              ("is_not_static", "false")]) ∧
      Yields ["describe", "--kind=class", "--", "final", "\x1b"]
        ⟨1, "", "Error: Unknown type modifier: \"\\u\x7b1b\x7d\"\n"⟩ := by
  have fieldListed : ("field", Choice.declaration .field) ∈ keywords := by decide
  have classListed : ("class", Choice.declaration .type) ∈ keywords := by decide
  have yamlListed : ("yaml", Choice.format .yaml) ∈ keywords := by decide
  have known : Expression.mask .field (" ".intercalate ["0x8", "volatile"]) = .ok 0x48 := rfl
  have unknown :
      Expression.mask .type (" ".intercalate ["final", "\x1b"]) =
        .error (.unknownModifier "\x1b" .type) := rfl
  have message :
      Fault.message (.unknownModifier "\x1b" .type) =
        "Unknown type modifier: \"\\u\x7b1b\x7d\"" := by
    decide +kernel
  have sound := actions_agree .field (List.cons_ne_nil "0x8" ["volatile"])
  have faulty := actions_agree .type (List.cons_ne_nil "final" ["\x1b"])
  rw [known] at sound
  rw [unknown] at faulty
  obtain ⟨_, _, impossible, _⟩ |
    ⟨mask, numerals, description, sameMask, rfl, rfl, _, _, encodes, describes, queries⟩ := sound
  · cases impossible
  obtain ⟨fault, line, sameFault, rfl, _, fails⟩ | ⟨_, _, _, impossible, _⟩ := faulty
  · obtain rfl := Except.ok.inj sameMask
    obtain rfl := Except.error.inj sameFault
    obtain ⟨report, reportYields, reportRead⟩ :=
      queries .yaml _ (.formatAndKind .letterEquals .letterJoined fieldListed yamlListed)
    have refused := fails _ _ (.kind .describe .nameEquals classListed)
    rw [message] at refused
    exact ⟨encodes _ (.kind .encode .letterJoined fieldListed),
      describes _ (.kind .describe .nameApart fieldListed), ⟨report, reportYields, reportRead⟩,
      refused⟩
  · cases impossible

end AccessMask.CommandLine
