import AccessMask.Proofs.DescriptionReading
import AccessMask.Proofs.ReportReading

/-!
# Quotes in the document of a report

Quotes keep a text from being read as something else. Of the values in a
document the numeral of the mask has them always and the description has them
if it holds no name: it is then empty or a numeral on its own. A description
with a name in it is never read as a number, a truth value or nothing at all.
-/

namespace AccessMask.Report.Yaml

open Expression Literal Text

/-! ## What a text is read as -/

/-- What a text without quotes is taken for. -/
inductive Reading where
  | nothing
  | truth
  | number
  | text
  deriving DecidableEq, Repr

def reading (text : String) : Reading :=
  if readsAsNull text then .nothing
  else if readsAsTruth text then .truth
  else if readsAsNumber text then .number
  else .text

theorem needsQuotes_iff {text : String} : needsQuotes text = true ↔ reading text ≠ .text := by
  rw [needsQuotes, reading]
  cases readsAsNull text <;> cases readsAsTruth text <;> cases readsAsNumber text <;> simp

/-- The texts that are read as nothing or as a truth value. -/
def keywords : List String :=
  ["", "~", "null", "Null", "NULL", "true", "True", "TRUE", "false", "False", "FALSE"]

theorem reading_of_no_keyword {text : String} (noKeyword : text ∉ keywords) :
    reading text = if readsAsNumber text then .number else .text := by
  have noNull : readsAsNull text = false := by
    apply decide_eq_false
    intro listed
    exact noKeyword (List.mem_append_left _ listed)
  have noTruth : readsAsTruth text = false := by
    apply decide_eq_false
    intro listed
    exact noKeyword (List.mem_append_right ["", "~", "null", "Null", "NULL"] listed)
  rw [reading, noNull, noTruth]
  rfl

/-! ## Numbers -/

theorem readsAsNumber_of_hexadecimal {text : String} {digits : List Char}
    (opens : text.toList = ['0', 'x'] ++ digits) (nonempty : digits ≠ [])
    (small : ∀ c ∈ digits, c ∈ smallDigits) :
    readsAsNumber text = true := by
  have areDigits : isDigits .hexadecimal digits = true := by
    rw [isDigits, Bool.and_eq_true, List.all_eq_true]
    constructor
    · simpa using nonempty
    · intro c member
      have hasDigit : Radix.hexadecimal.HasDigit c := Or.inl (small c member)
      rw [digit?_eq_some_iff.mpr ⟨hasDigit, rfl⟩]
      rfl
  rw [readsAsNumber, opens]
  exact areDigits

/-- A hexadecimal numeral is read as a number, padded or not. -/
theorem reading_numeral {form : Numeral.Form} (marked : form.opening = ['0', 'x'])
    (mask : Mask) :
    reading (form.write mask) = .number := by
  have noneOpens : ∀ keyword ∈ keywords, keyword.toList.head? ≠ some '0' := by decide
  have noKeyword : form.write mask ∉ keywords := by
    intro listed
    apply noneOpens _ listed
    rw [form.toList_write, marked]
    rfl
  have small : ∀ c ∈ form.digits mask, c ∈ smallDigits :=
    fun c member => List.mem_of_mem_take (form.mem_digits mask c member)
  have opens := form.toList_write mask
  rw [marked] at opens
  rw [reading_of_no_keyword noKeyword,
    readsAsNumber_of_hexadecimal opens (form.digits_ne_nil mask) small]
  rfl

section

variable {letter : Char} (isLetter : letter.isLower = true)

include isLetter

theorem ne_of_isLower {mark : Char} (other : mark.isLower = false) : letter ≠ mark := by
  intro same
  rw [same, other] at isLetter
  exact Bool.noConfusion isLetter

theorem isDigit_of_isLower : letter.isDigit = false := by
  rw [← Bool.not_eq_true]
  intro digit
  obtain ⟨low, _⟩ := Bool.and_eq_true_iff.mp isLetter
  obtain ⟨_, high⟩ := Bool.and_eq_true_iff.mp digit
  have lower : 0x61 ≤ letter.toNat := of_decide_eq_true low
  have upper : letter.toNat ≤ 0x39 := of_decide_eq_true high
  omega

theorem isDecimal_of_letter (rest : List Char) : isDecimal (letter :: rest) = false := by
  have noDigit : ¬ letter.isDigit = true := by
    rw [isDigit_of_isLower isLetter]
    exact Bool.false_ne_true
  rw [isDecimal, List.takeWhile_cons_of_neg noDigit, List.dropWhile_cons_of_neg noDigit]
  split
  case h_1 shape => exact absurd (List.cons.inj shape).1 (ne_of_isLower isLetter rfl)
  case h_2 => rfl

theorem isUnsignedNumber_of_letter (rest : List Char) :
    isUnsignedNumber (letter :: rest) = false := by
  have pointFirst :
      ∀ special ∈ [".inf", ".Inf", ".INF", ".nan", ".NaN", ".NAN"],
        special.toList.head? = some '.' := by
    decide
  have noSpecial :
      String.ofList (letter :: rest) ∉ [".inf", ".Inf", ".INF", ".nan", ".NaN", ".NAN"] := by
    intro listed
    have head := pointFirst _ listed
    rw [String.toList_ofList] at head
    exact ne_of_isLower isLetter rfl (Option.some.inj head)
  unfold isUnsignedNumber
  split
  case h_1 shape => exact absurd (List.cons.inj shape).1 (ne_of_isLower isLetter rfl)
  case h_2 shape => exact absurd (List.cons.inj shape).1 (ne_of_isLower isLetter rfl)
  case h_3 shape => exact absurd (List.cons.inj shape).1 (ne_of_isLower isLetter rfl)
  case h_4 =>
    rw [isDecimal_of_letter isLetter, Bool.false_or]
    exact decide_eq_false noSpecial

/-- A number opens with a digit, a sign or a point. -/
theorem readsAsNumber_of_letter {text : String} {rest : List Char}
    (opens : text.toList = letter :: rest) :
    readsAsNumber text = false := by
  rw [readsAsNumber, opens]
  split
  case h_1 shape => exact absurd (List.cons.inj shape).1 (ne_of_isLower isLetter rfl)
  case h_2 shape => exact absurd (List.cons.inj shape).1 (ne_of_isLower isLetter rfl)
  case h_3 => exact isUnsignedNumber_of_letter isLetter rest

end

/-! ## Descriptions -/

theorem name_not_mem_terms_keyword (declaration : Declaration) :
    ∀ entry ∈ declaration.modifiers.entries, ∀ keyword ∈ keywords,
      entry.name ∉ terms keyword := by
  cases declaration <;> decide

theorem name_opens_with_letter (declaration : Declaration) :
    ∀ entry ∈ declaration.modifiers.entries,
      entry.name.toList.head?.any Char.isLower = true := by
  cases declaration <;> decide

theorem head?_intercalate_cons {first : String} (nonempty : first.toList ≠ [])
    (rest : List String) :
    (" ".intercalate (first :: rest)).toList.head? = first.toList.head? := by
  cases rest with
  | nil => rw [String.intercalate_singleton]
  | cons next others =>
      rw [String.intercalate_cons_cons, String.toList_append, String.toList_append,
        List.append_assoc, List.head?_append_of_ne_nil _ nonempty]

variable {declaration : Declaration} {mask : Mask}

theorem text_of_unnamed (unnamed : mask &&& declaration.modifiers.namedMask = 0) :
    Description.text ⟨mask, declaration⟩ = if mask = 0 then "" else Numeral.hex mask := by
  rw [Description.text, Description.words, Vocabulary.words_of_unnamed unnamed]
  by_cases zero : mask = 0
  · rw [if_pos zero, if_pos zero]
    rfl
  · rw [if_neg zero, if_neg zero, String.intercalate_singleton]

/-- A name keeps a description from being read as anything else. It is a term,
which no keyword has, and the first one, so no number opens like it. -/
theorem reading_of_named (named : mask &&& declaration.modifiers.namedMask ≠ 0) :
    reading (Description.text ⟨mask, declaration⟩) = .text := by
  obtain ⟨entry, listed, others, words⟩ := Vocabulary.words_of_named named
  have noKeyword : Description.text ⟨mask, declaration⟩ ∉ keywords := by
    intro keyword
    apply name_not_mem_terms_keyword declaration entry listed _ keyword
    rw [Description.terms_text, Description.words, words]
    exact List.mem_cons_self
  have noNumber : readsAsNumber (Description.text ⟨mask, declaration⟩) = false := by
    obtain ⟨letter, first, isLetter⟩ :=
      (Option.any_eq_true _ _).mp (name_opens_with_letter declaration entry listed)
    have nameFirst : (Description.text ⟨mask, declaration⟩).toList.head? = some letter := by
      rw [Description.text, Description.words, words,
        head?_intercalate_cons (Description.isWord_name declaration entry listed).1]
      exact first
    obtain ⟨rest, shape⟩ := List.head?_eq_some_iff.mp nameFirst
    exact readsAsNumber_of_letter isLetter shape
  rw [reading_of_no_keyword noKeyword, noNumber]
  rfl

theorem reading_description (declaration : Declaration) (mask : Mask) :
    reading (Description.text ⟨mask, declaration⟩) =
      if mask &&& declaration.modifiers.namedMask ≠ 0 then .text
      else if mask = 0 then .nothing
      else .number := by
  by_cases unnamed : mask &&& declaration.modifiers.namedMask = 0
  · rw [if_neg (not_not_intro unnamed), text_of_unnamed unnamed]
    by_cases zero : mask = 0
    · rw [if_pos zero, if_pos zero]
      rfl
    · rw [if_neg zero, if_neg zero]
      exact reading_numeral (rfl : Numeral.Form.hex.opening = ['0', 'x']) mask
  · rw [if_pos unnamed]
    exact reading_of_named unnamed

theorem reading_description_ne_text_iff :
    reading (Description.text ⟨mask, declaration⟩) ≠ .text ↔
      mask &&& declaration.modifiers.namedMask = 0 := by
  rw [reading_description]
  by_cases unnamed : mask &&& declaration.modifiers.namedMask = 0
  · rw [if_neg (not_not_intro unnamed)]
    apply iff_of_true _ unnamed
    split <;> decide
  · rw [if_pos unnamed]
    exact iff_of_false (not_not_intro rfl) unnamed

theorem reading_name (declaration : Declaration) : reading declaration.name = .text := by
  cases declaration <;> decide

/-! ## Values between quotes -/

/-- True of a text that stands in single quotes. -/
def IsQuoted (text : String) : Prop := ∃ inside, text = quoted inside

/-- The characters that do not stand for themselves between single or double
quotes, or that may not. -/
def NeedsEscape (c : Char) : Prop :=
  c = '\x27' ∨ c = '"' ∨ c = '\\' ∨ isVisibleAscii c = false

theorem not_isQuoted_of_isBare {text : String} (bare : IsBare text) : ¬ IsQuoted text := by
  intro isQuoted
  obtain ⟨inside, rfl⟩ := isQuoted
  have noQuote : '\x27' ∉ (quoted inside).toList := not_mem_of_isBare bare (by decide)
  apply noQuote
  simp [quoted]

theorem not_needsEscape_of_isBare {text : String} (bare : IsBare text) :
    ∀ c ∈ text.toList, ¬ NeedsEscape c := by
  intro c member escaped
  have isBareHere := bare c member
  rcases escaped with rfl | rfl | rfl | hidden
  case inr.inr.inr =>
    rw [isVisibleAscii_of_isBareCharacter isBareHere] at hidden
    exact Bool.noConfusion hidden
  all_goals exact absurd isBareHere (by decide)

theorem isQuoted_text_iff {text : String} (bare : IsBare text) :
    IsQuoted (scalar (.text text)) ↔ reading text ≠ .text := by
  rw [← needsQuotes_iff, scalar]
  split
  case isTrue needed => exact iff_of_true ⟨text, rfl⟩ needed
  case isFalse unneeded => exact iff_of_false (not_isQuoted_of_isBare bare) unneeded

theorem not_isQuoted_truth (value : Bool) : ¬ IsQuoted (scalar (.truth value)) :=
  not_isQuoted_of_isBare (isBare_truthText value)

theorem scalar_mem (value : Value) : scalar value ∈ [value.plain, quoted value.plain] := by
  cases value with
  | truth value => exact List.mem_cons_self
  | text value =>
      rw [scalar]
      split
      case isTrue => exact List.mem_of_getLast? rfl
      case isFalse => exact List.mem_cons_self

/-- The numeral always has quotes, the description has them if no bit has a
name, and no other value has any. -/
theorem isQuoted_scalar_iff {report : Report} :
    ∀ entry ∈ report.entries,
      IsQuoted (scalar entry.value) ↔
        entry.key = "flags" ∨
          entry.key = "modifiers" ∧
            report.inspection.mask &&& report.declaration.modifiers.namedMask = 0 := by
  intro entry member
  have bare := (entry_shape entry member).2.2
  rw [entries, List.mem_append, List.mem_map] at member
  rcases member with textual | ⟨verdict, listed, rfl⟩
  · simp only [List.mem_cons, List.not_mem_nil, or_false] at textual
    rcases textual with rfl | rfl | rfl
    · have kindBare : IsBare report.declaration.name := bare
      have noQuotes : ¬ IsQuoted (scalar (.text report.declaration.name)) := by
        rw [isQuoted_text_iff kindBare, reading_name]
        exact not_not_intro rfl
      exact iff_of_false noQuotes (by simp)
    · have flagsBare : IsBare report.flags := bare
      have number : reading report.flags = .number :=
        reading_numeral (rfl : Numeral.Form.paddedHex.opening = ['0', 'x']) _
      have quotes : IsQuoted (scalar (.text report.flags)) := by
        rw [isQuoted_text_iff flagsBare, number]
        decide
      exact iff_of_true quotes (Or.inl rfl)
    · have modifiersBare : IsBare report.modifiers := bare
      have description :
          IsQuoted (scalar (.text report.modifiers)) ↔
            report.inspection.mask &&& report.declaration.modifiers.namedMask = 0 :=
        (isQuoted_text_iff modifiersBare).trans reading_description_ne_text_iff
      simpa using description
  · obtain ⟨predicate, _, rfl⟩ := List.mem_map.mp listed
    have otherKey : predicate.name ≠ "flags" ∧ predicate.name ≠ "modifiers" := by
      cases predicate <;> decide
    apply iff_of_false (not_isQuoted_truth _)
    simp [otherKey]

end AccessMask.Report.Yaml

namespace AccessMask.CommandLine

open Report Report.Yaml Text

theorem linesOf_document (declaration : Declaration) (mask : Mask) :
    linesOf ((Action.query .yaml).output declaration mask) =
      (Report.entries ⟨declaration, .ofDeclaration declaration mask⟩).map Yaml.line :=
  Format.linesOf_output .yaml declaration mask

theorem description_line {declaration : Declaration} {mask : Mask}
    (unnamed : mask &&& declaration.modifiers.namedMask = 0) :
    "modifiers: " ++ quoted (if mask = 0 then "" else Numeral.hex mask) ∈
      linesOf ((Action.query .yaml).output declaration mask) := by
  have listed :
      ⟨"modifiers", "Modifiers", .text (Description.text ⟨mask, declaration⟩)⟩ ∈
        Report.entries ⟨declaration, .ofDeclaration declaration mask⟩ := by
    simp [Report.entries, Report.modifiers]
  have shown : scalar (.text (Description.text ⟨mask, declaration⟩)) =
      quoted (Description.text ⟨mask, declaration⟩) :=
    if_pos (needsQuotes_iff.mpr (reading_description_ne_text_iff.mpr unnamed))
  rw [← text_of_unnamed unnamed, ← shown, linesOf_document]
  exact List.mem_map_of_mem listed

/-- A document has a line for each entry. A text in it has quotes if it would be
read as something else without them, so the numeral of the mask always has them
and the description has them if none of the bits has a name: it is then empty
or a numeral on its own. No value holds a character that quotes would not show
as it is. -/
theorem quotes_tell_numerals (declaration : Declaration) (mask : Mask) :
    let entries := Report.entries ⟨declaration, .ofDeclaration declaration mask⟩
    let lines := linesOf ((Action.query .yaml).output declaration mask)
    let unnamed := mask &&& declaration.modifiers.namedMask = 0
    lines = entries.map (fun entry => entry.key ++ ": " ++ scalar entry.value) ∧
      entries.map (·.key) = Format.yaml.labels ∧
      (∀ entry ∈ entries,
        (∀ text, entry.value = .text text →
          (IsQuoted (scalar entry.value) ↔ reading text ≠ .text)) ∧
          (IsQuoted (scalar entry.value) ↔
            entry.key = "flags" ∨ entry.key = "modifiers" ∧ unnamed) ∧
          scalar entry.value ∈ [entry.value.plain, quoted entry.value.plain] ∧
          ∀ c ∈ entry.value.plain.toList, ¬ NeedsEscape c) ∧
      reading (Description.text ⟨mask, declaration⟩) =
        (if mask &&& declaration.modifiers.namedMask ≠ 0 then .text
        else if mask = 0 then .nothing
        else .number) ∧
      (mask = 0 → "modifiers: \x27\x27" ∈ lines) ∧
      (mask ≠ 0 → unnamed → "modifiers: " ++ quoted (Numeral.hex mask) ∈ lines) := by
  intro entries lines unnamed
  refine ⟨linesOf_document declaration mask, rfl, ?_, reading_description declaration mask,
    ?_, ?_⟩
  · intro entry member
    have bare := (entry_shape entry member).2.2
    refine ⟨?_, ?_, scalar_mem entry.value, not_needsEscape_of_isBare bare⟩
    · intro text isText
      rw [isText] at bare ⊢
      exact isQuoted_text_iff bare
    · have isQuoted := isQuoted_scalar_iff entry member
      rw [Inspection.mask_ofDeclaration] at isQuoted
      exact isQuoted
  · intro zero
    have isUnnamed : mask &&& declaration.modifiers.namedMask = 0 := by
      rw [zero]
      exact BitVec.zero_and
    have zeroLine := description_line isUnnamed
    rw [if_pos zero] at zeroLine
    exact zeroLine
  · intro nonzero isUnnamed
    have numeralLine := description_line isUnnamed
    rw [if_neg nonzero] at numeralLine
    exact numeralLine

theorem quotes_tell_numerals_interface :
    "modifiers: \x270x200\x27" ∈ linesOf ((Action.query .yaml).output .field 0x200) ∧
      ¬ IsQuoted (scalar (.text "interface")) ∧
      (∀ c ∈ "interface".toList, ¬ NeedsEscape c) ∧
      "modifiers: \x27\x27" ∈ linesOf ((Action.query .yaml).output .method 0) := by
  have numeral : "modifiers: " ++ quoted (Numeral.hex 0x200) = "modifiers: \x270x200\x27" := by
    decide
  have listed :
      ⟨"modifiers", "Modifiers", .text "interface"⟩ ∈
        Report.entries ⟨.type, .ofDeclaration .type 0x200⟩ := by
    decide
  obtain ⟨_, _, _, _, _, lone⟩ := quotes_tell_numerals .field 0x200
  obtain ⟨_, _, values, _, _, _⟩ := quotes_tell_numerals .type 0x200
  obtain ⟨_, _, _, _, nothing, _⟩ := quotes_tell_numerals .method 0
  obtain ⟨told, _, _, noEscape⟩ := values _ listed
  have unquoted : ¬ IsQuoted (scalar (.text "interface")) := by
    rw [told "interface" rfl]
    decide
  rw [numeral] at lone
  exact ⟨lone (by decide) (by decide), unquoted, noEscape, nothing rfl⟩

end AccessMask.CommandLine
