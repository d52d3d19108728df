import AccessMask.CommandLine.Outcome
import AccessMask.Proofs.CommandLineReading
import AccessMask.Proofs.DescriptionReading
import AccessMask.Proofs.PrintedCharacters

/-!
# Giving output back

What `encode` and `describe` print is an expression. Given back as words, whole
or cut at spaces, it is taken for words, not for options, and stands for the
mask that it was printed for. Only the zero mask has no description to give
back.
-/

namespace AccessMask.CommandLine

open Expression Text

/-! ## Command lines with given words -/

/-- The argument lists that give a command some words, with at most one option,
which sets the kind of declaration and stands in front of the words, among them
or behind them. -/
inductive CallsWith (command : Command) (words : List String) :
    Declaration → List String → Prop
  | bare : CallsWith command words .method (command.name :: words)
  | set {before after : List String} {keyword : String} {kind : Declaration}
      (spelling : Spelling) :
      before ++ after = words →
      (keyword, .declaration kind) ∈ keywords →
      CallsWith command words kind
        (command.name :: (before ++ spelling.arguments .declaration keyword ++ after))

theorem exists_wordParts (command : Command) {words : List String}
    (plain : ∀ word ∈ words, IsPlain word) :
    ∃ parts : List (Part command),
      parts.flatMap Part.arguments = words ∧ parts.filterMap Part.word? = words ∧
        parts.filterMap Part.choice? = [] := by
  induction words with
  | nil => exact ⟨[], rfl, rfl, rfl⟩
  | cons word rest inductionHypothesis =>
      obtain ⟨wordPlain, restPlain⟩ := List.forall_mem_cons.mp plain
      obtain ⟨parts, written, wordsBack, noChoice⟩ := inductionHypothesis restPlain
      refine ⟨.word word wordPlain :: parts, ?_, ?_, noChoice⟩
      · exact congrArg (word :: ·) written
      · exact congrArg (word :: ·) wordsBack

theorem read_parts {command : Command} {parts : List (Part command)}
    {behind : Option (List String)} {options words : List String} {choices : List Choice}
    (written : parts.flatMap Part.arguments = options)
    (chosen : parts.filterMap Part.choice? = choices)
    (wordsBack : parts.filterMap Part.word? ++ behind.getD [] = words)
    (once : (choices.map Choice.setting).Nodup) (someWord : words ≠ []) :
    Invocation.read (command.name :: (options ++ behindArguments behind)) =
      .ok
        ⟨command.action ((choices.findSome? Choice.format?).getD .text),
          (choices.findSome? Choice.declaration?).getD .method, words, someWord⟩ := by
  subst written chosen wordsBack
  let line : Line := ⟨command, parts, behind, once, someWord⟩
  exact read_line line

theorem read_of_callsWith {command : Command} {words arguments : List String}
    {declaration : Declaration} (calls : CallsWith command words declaration arguments)
    (plain : ∀ word ∈ words, IsPlain word) (someWord : words ≠ []) :
    Invocation.read arguments = .ok ⟨command.action .text, declaration, words, someWord⟩ := by
  cases calls with
  | bare =>
      obtain ⟨parts, written, wordsBack, noChoice⟩ := exists_wordParts command plain
      have allWords : parts.filterMap Part.word? ++ (none : Option (List String)).getD [] = words :=
        (List.append_nil _).trans wordsBack
      have read := read_parts written noChoice allWords List.nodup_nil someWord
      rw [behindArguments, List.append_nil] at read
      exact read
  | @set before after keyword _ spelling cut listed =>
      subst cut
      obtain ⟨beforePlain, afterPlain⟩ := List.forall_mem_append.mp plain
      obtain ⟨left, leftWritten, leftWords, leftNoChoice⟩ := exists_wordParts command beforePlain
      obtain ⟨right, rightWritten, rightWords, rightNoChoice⟩ := exists_wordParts command afterPlain
      let option : Part command :=
        .setting spelling keyword (.declaration declaration) listed (by simp [Choice.setting])
      have isChoice : option.choice? = some (.declaration declaration) := rfl
      have noWord : option.word? = none := rfl
      have choices :
          (left ++ option :: right).filterMap Part.choice? = [.declaration declaration] := by
        rw [List.filterMap_append, List.filterMap_cons_some isChoice, leftNoChoice, rightNoChoice]
        rfl
      have words :
          (left ++ option :: right).filterMap Part.word? ++ (none : Option (List String)).getD [] =
            before ++ after := by
        rw [List.filterMap_append, List.filterMap_cons_none noWord, leftWords, rightWords]
        exact List.append_nil _
      have written :
          (left ++ option :: right).flatMap Part.arguments =
            before ++ spelling.arguments .declaration keyword ++ after := by
        rw [List.flatMap_append, List.flatMap_cons, leftWritten, rightWritten,
          List.append_assoc]
        rfl
      have read := read_parts written choices words (List.nodup_singleton _) someWord
      rw [behindArguments, List.append_nil] at read
      exact read

/-! ## Printed words -/

theorem mem_intercalate_iff {words : List String} {c : Char} (notSpace : c ≠ ' ') :
    c ∈ (" ".intercalate words).toList ↔ ∃ word ∈ words, c ∈ word.toList := by
  induction words with
  | nil => simp
  | cons first rest inductionHypothesis =>
      cases rest with
      | nil => simp
      | cons next others =>
          rw [String.intercalate_cons_cons, String.toList_append, List.mem_append,
            inductionHypothesis]
          simp [notSpace]

theorem isPlain_of_no_dash {text : String} (noDash : '-' ∉ text.toList) : IsPlain text := by
  right
  intro dash
  exact noDash (List.mem_of_mem_head? dash)

/-- No dash is ever printed in a description, so no piece of one looks like an
option. -/
theorem no_dash_description (declaration : Declaration) (mask : Mask) :
    '-' ∉ (Description.text ⟨mask, declaration⟩).toList :=
  not_mem_of_isBare (isBare_description mask declaration) (by decide)

/-! ## What is printed, read again -/

/-- The argument list is accepted, and running it leaves the outcome behind. -/
def Yields (arguments : List String) (outcome : Outcome) : Prop :=
  ∃ invocation, Invocation.read arguments = .ok invocation ∧ invocation.outcome = outcome

namespace Invocation

/-- The same words for the same kind of declaration, put to another use. -/
def withAction (action : Action) (invocation : Invocation) : Invocation :=
  { invocation with action := action }

theorem outcome_of_ok {invocation : Invocation} {mask : Mask}
    (read : invocation.mask = .ok mask) :
    invocation.outcome = ⟨0, invocation.action.output invocation.declaration mask, ""⟩ := by
  rw [outcome, read]

theorem outcome_of_error {invocation : Invocation} {fault : Fault}
    (refused : invocation.mask = .error fault) :
    invocation.outcome = ⟨1, "", "Error: " ++ fault.message ++ "\n"⟩ := by
  rw [outcome, refused]

theorem exists_mask_of_success {invocation : Invocation}
    (succeeded : invocation.outcome.exitCode = 0) :
    ∃ mask, invocation.mask = .ok mask := by
  cases read : invocation.mask with
  | ok mask => exact ⟨mask, rfl⟩
  | error fault => simp [outcome_of_error read] at succeeded

end Invocation

/-- The two numerals that `encode` prints. -/
def encoded (mask : Mask) : String := Numeral.paddedHex mask ++ " " ++ Numeral.decimal mask

theorem terms_encoded (mask : Mask) :
    terms (encoded mask) = [Numeral.paddedHex mask, Numeral.decimal mask] := by
  rw [encoded, terms_append_space]
  exact congrArg₂ (· ++ ·) (Numeral.Form.paddedHex.terms_write mask)
    (Numeral.Form.decimal.terms_write mask)

theorem mask_encoded (declaration : Declaration) (mask : Mask) :
    Expression.mask declaration (encoded mask) = .ok mask := by
  rw [mask_eq_ok_iff, terms_encoded]
  have denote :
      List.Forall₂ (TermDenotes declaration)
        [Numeral.paddedHex mask, Numeral.decimal mask] [mask, mask] :=
    .cons (Numeral.Form.paddedHex.termDenotes_write mask declaration)
      (.cons (Numeral.Form.decimal.termDenotes_write mask declaration) .nil)
  exact ⟨List.cons_ne_nil _ _, [mask, mask], denote, by simp [Mask.union]⟩

theorem isBare_encoded (mask : Mask) : IsBare (encoded mask) :=
  isBare_append (isBare_append (isBare_numeral .paddedHex mask) (by decide)) (isBare_numeral .decimal mask)

theorem isPlain_encoded (mask : Mask) : IsPlain (encoded mask) :=
  isPlain_of_no_dash (not_mem_of_isBare (isBare_encoded mask) (by decide))

/-- A call whose words make an expression is accepted, and writes out the mask
that the expression stands for. -/
theorem yields_of_callsWith {command : Command} {words arguments : List String}
    {declaration : Declaration} {mask : Mask}
    (calls : CallsWith command words declaration arguments) (plain : ∀ word ∈ words, IsPlain word)
    (read : Expression.mask declaration (" ".intercalate words) = .ok mask) :
    Yields arguments ⟨0, (command.action .text).output declaration mask, ""⟩ := by
  have someWord : words ≠ [] := by
    rintro rfl
    cases read
  exact ⟨_, read_of_callsWith calls plain someWord, Invocation.outcome_of_ok read⟩

/-- What a successful invocation makes `encode` and `describe` print can be given
back to them. Numerals give the same numerals for any kind of declaration. A
description gives, as one word or cut at any of its spaces, what its own words
gave. The zero mask has the empty description, which is no expression. -/
theorem output_reads_back (invocation : Invocation)
    (succeeded : invocation.outcome.exitCode = 0) :
    ∃ mask, invocation.mask = .ok mask ∧
      (∃ text,
        (invocation.withAction .encode).outcome = ⟨0, text ++ "\n", ""⟩ ∧
          ∀ declaration arguments, CallsWith .encode [text] declaration arguments →
            Yields arguments ⟨0, text ++ "\n", ""⟩) ∧
      (mask ≠ 0 → ∃ text,
        (invocation.withAction .describe).outcome = ⟨0, text ++ "\n", ""⟩ ∧
          ∀ words, " ".intercalate words = text →
            ∀ command ∈ [Command.encode, Command.describe], ∀ arguments,
              CallsWith command words invocation.declaration arguments →
                Yields arguments (invocation.withAction (command.action .text)).outcome) ∧
      (mask = 0 →
        (invocation.withAction .describe).outcome = ⟨0, "\n", ""⟩ ∧
          ∀ command declaration arguments, CallsWith command [""] declaration arguments →
            Yields arguments ⟨1, "", "Error: Empty flag expression\n"⟩) := by
  obtain ⟨mask, read⟩ := Invocation.exists_mask_of_success succeeded
  have readAny (action : Action) : (invocation.withAction action).mask = .ok mask := read
  refine ⟨mask, read, ?_, ?_, ?_⟩
  · refine ⟨encoded mask, Invocation.outcome_of_ok (readAny .encode), ?_⟩
    intro declaration arguments calls
    have plain : ∀ word ∈ [encoded mask], IsPlain word := by simpa using isPlain_encoded mask
    have readAgain : Expression.mask declaration (" ".intercalate [encoded mask]) = .ok mask := by
      rw [String.intercalate_singleton]
      exact mask_encoded declaration mask
    exact yields_of_callsWith calls plain readAgain
  · intro nonzero
    let text := Description.text ⟨mask, invocation.declaration⟩
    refine ⟨text, Invocation.outcome_of_ok (readAny .describe), ?_⟩
    intro words whole command _ arguments calls
    have readAgain :
        Expression.mask invocation.declaration (" ".intercalate words) = .ok mask := by
      rw [whole]
      exact Description.mask_text_self invocation.declaration nonzero
    have plain : ∀ word ∈ words, IsPlain word := by
      intro word member
      apply isPlain_of_no_dash
      intro dash
      have dashPrinted := (mem_intercalate_iff (by decide)).mpr ⟨word, member, dash⟩
      rw [whole] at dashPrinted
      exact no_dash_description invocation.declaration mask dashPrinted
    rw [Invocation.outcome_of_ok (readAny (command.action .text))]
    exact yields_of_callsWith calls plain readAgain
  · intro zero
    subst zero
    refine ⟨?_, ?_⟩
    · have nothing : Description.text ⟨0, invocation.declaration⟩ ++ "\n" = "\n" := by
        rw [Description.text_zero]
        rfl
      rw [← nothing]
      exact Invocation.outcome_of_ok (readAny .describe)
    · intro command declaration arguments calls
      have plain : ∀ word ∈ [""], IsPlain word := by decide
      exact ⟨_, read_of_callsWith calls plain (List.cons_ne_nil _ _), rfl⟩

theorem output_reads_back_volatile :
    Invocation.read ["query", "-kfield", "0x80040"] =
        .ok ⟨.query .text, .field, ["0x80040"], by decide⟩ ∧
      (Invocation.outcome ⟨.query .text, .field, ["0x80040"], by decide⟩).exitCode = 0 ∧
      Invocation.outcome ⟨.describe, .field, ["0x80040"], by decide⟩ = ⟨0, "volatile 0x80000\n", ""⟩ ∧
      Yields ["encode", "volatile", "--kind=field", "0x80000"] ⟨0, "0x80040 524352\n", ""⟩ ∧
      Yields ["encode", "0x80040 524352", "-k", "class"] ⟨0, "0x80040 524352\n", ""⟩ := by
  have accepted :
      Invocation.read ["query", "-kfield", "0x80040"] =
        .ok ⟨.query .text, .field, ["0x80040"], by decide⟩ := by
    decide
  have succeeded :
      (Invocation.outcome ⟨.query .text, .field, ["0x80040"], by decide⟩).exitCode = 0 := by
    decide
  have described :
      Invocation.outcome ⟨.describe, .field, ["0x80040"], by decide⟩ = ⟨0, "volatile 0x80000\n", ""⟩ := by
    decide
  have numbered :
      Invocation.outcome ⟨.encode, .field, ["0x80040"], by decide⟩ = ⟨0, "0x80040 524352\n", ""⟩ := by
    decide
  obtain ⟨mask, read, ⟨numerals, printed, numeralsBack⟩, descriptionBack, _⟩ :=
    output_reads_back _ succeeded
  have maskValue : mask = 0x80040 := by
    have known : Invocation.mask ⟨.query .text, .field, ["0x80040"], by decide⟩ = .ok 0x80040 := rfl
    exact Except.ok.inj (read.symm.trans known)
  have nonzero : mask ≠ 0 := by
    rw [maskValue]
    decide
  obtain ⟨text, textPrinted, textBack⟩ := descriptionBack nonzero
  have sameNumerals : "0x80040 524352" = numerals :=
    (String.append_left_inj "\n").mp (congrArg Outcome.stdout (numbered.symm.trans printed))
  have sameText : "volatile 0x80000" = text :=
    (String.append_left_inj "\n").mp (congrArg Outcome.stdout (described.symm.trans textPrinted))
  have wholeCall :
      CallsWith .encode [numerals] .type ["encode", "0x80040 524352", "-k", "class"] := by
    rw [← sameNumerals]
    exact @CallsWith.set _ _ ["0x80040 524352"] [] "class" .type .letterApart rfl (by decide)
  have piecesCall :
      CallsWith .encode ["volatile", "0x80000"] .field
        ["encode", "volatile", "--kind=field", "0x80000"] :=
    @CallsWith.set _ _ ["volatile"] ["0x80000"] "field" .field .nameEquals rfl (by decide)
  refine ⟨accepted, succeeded, described, ?_, ?_⟩
  · rw [← numbered]
    exact textBack ["volatile", "0x80000"] sameText .encode (by simp) _ piecesCall
  · have wholeBack := numeralsBack .type _ wholeCall
    rw [← sameNumerals] at wholeBack
    exact wholeBack

end AccessMask.CommandLine
