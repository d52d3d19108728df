import AccessMask.Declaration.Reading
import AccessMask.Proofs.JournalReplay
import AccessMask.Proofs.QuotedReading

/-!
# Messages and the texts that they show

A message tells its fault: the words in front of the quotation tell the kind of
the fault, and the quotation can be read back. And a message or a record stays
what it is whatever text it shows. It is a single line without a control
character, and the text does not reach beyond its quotation marks.
-/

namespace AccessMask

open Expression Text

namespace Fault

/-! ## The words around a text -/

/-- A kind of fault that shows a text, with the words around the text. -/
structure Shape where
  ofText : String → Fault
  opening : String
  closing : String

namespace Shape

def unknownModifier (declaration : Declaration) : Shape where
  ofText := (.unknownModifier · declaration)
  opening := "Unknown " ++ declaration.name ++ " modifier: "
  closing := ""

def invalidLiteral : Shape where
  ofText := .invalidLiteral
  opening := "Invalid integer literal "
  closing := ""

def unknownDeclaration : Shape where
  ofText := .unknownDeclaration
  opening := "Unknown element kind "
  closing := " (expected type, field or method)"

def all : List Shape :=
  Declaration.all.map unknownModifier ++ [invalidLiteral, unknownDeclaration]

end Shape

/-- The text that a fault shows. -/
def text? : Fault → Option String
  | .empty => none
  | .unknownModifier name _ => some name
  | .invalidLiteral text => some text
  | .unknownDeclaration text => some text

theorem message_eq (fault : Fault) :
    fault = .empty ∨
      ∃ shape ∈ Shape.all, ∃ text,
        fault.text? = some text ∧ fault = shape.ofText text ∧
          fault.message = shape.opening ++ Quoted.quote text ++ shape.closing := by
  cases fault with
  | empty => exact Or.inl rfl
  | unknownModifier name declaration =>
      have listed : Shape.unknownModifier declaration ∈ Shape.all :=
        List.mem_append_left _ (List.mem_map_of_mem declaration.mem_all)
      exact Or.inr ⟨_, listed, name, rfl, rfl, String.append_empty.symm⟩
  | invalidLiteral text =>
      have listed : Shape.invalidLiteral ∈ Shape.all :=
        List.mem_append_right _ List.mem_cons_self
      exact Or.inr ⟨_, listed, text, rfl, rfl, String.append_empty.symm⟩
  | unknownDeclaration text =>
      have listed : Shape.unknownDeclaration ∈ Shape.all :=
        List.mem_append_right _ (List.mem_cons_of_mem _ List.mem_cons_self)
      exact Or.inr ⟨_, listed, text, rfl, rfl, rfl⟩

theorem no_mark_in_opening : ∀ shape ∈ Shape.all, '"' ∉ shape.opening.toList :=
  List.all_iff_forall_prop.mp rfl

theorem opening_nodup : (Shape.all.map (·.opening)).Nodup := by
  decide

/-! ## Reading a message -/

/-- The fault that a message tells. -/
def ofMessage? (message : String) : Option Fault :=
  match message.toList.dropWhile (· ≠ '"') with
  | [] => if message = "Empty flag expression" then some .empty else none
  | _ :: quoted =>
      (Quoted.read .plain quoted).bind fun (text, behind) =>
        (Shape.all.find? fun shape =>
            shape.opening.toList = message.toList.takeWhile (· ≠ '"') ∧
              shape.closing.toList = behind).map
          fun shape => shape.ofText (String.ofList text)

theorem find?_shape {shape : Shape} (listed : shape ∈ Shape.all) :
    (Shape.all.find? fun other =>
        other.opening.toList = shape.opening.toList ∧
          other.closing.toList = shape.closing.toList) =
      some shape := by
  have present :
      (Shape.all.find? fun other =>
          other.opening.toList = shape.opening.toList ∧
            other.closing.toList = shape.closing.toList).isSome := by
    rw [List.find?_isSome]
    exact ⟨shape, listed, by simp⟩
  obtain ⟨found, isFound⟩ := Option.isSome_iff_exists.mp present
  have sameOpening : found.opening = shape.opening := by
    have satisfied := List.find?_some isFound
    rw [decide_eq_true_eq] at satisfied
    exact String.toList_inj.mp satisfied.1
  have sameShape : found = shape :=
    List.inj_on_of_nodup_map opening_nodup (List.mem_of_find?_eq_some isFound) listed sameOpening
  rw [isFound, sameShape]

theorem ofMessage?_message (fault : Fault) : ofMessage? fault.message = some fault := by
  rcases fault.message_eq with rfl | ⟨shape, listed, text, _, rfl, message⟩
  · decide
  · have noMark := no_mark_in_opening shape listed
    have characters :
        (shape.ofText text).message.toList =
          shape.opening.toList ++ '"' :: (Quoted.body text ++ '"' :: shape.closing.toList) := by
      rw [message]
      simp [Quoted.quote]
    simp only [ofMessage?, characters, dropWhile_before noMark, takeWhile_before noMark,
      Quoted.read_body, Option.bind_some, find?_shape listed, Option.map_some,
      String.ofList_toList]

/-- A message tells its fault, and quotation marks lose nothing of a text. -/
theorem message_injective :
    Function.Injective Fault.message ∧
      (∀ fault : Fault, ofMessage? fault.message = some fault) ∧
      ∀ text, Quoted.unquote? (Quoted.quote text) = some text := by
  refine ⟨?_, ofMessage?_message, Quoted.unquote?_quote⟩
  intro left right same
  have read : some left = some right := by
    rw [← ofMessage?_message left, ← ofMessage?_message right, same]
  exact Option.some.inj read

theorem message_injective_look_alike :
    message (.invalidLiteral "0\x1b") ≠ message (.invalidLiteral "0\\u\x7b1b\x7d") ∧
      ofMessage? "Unknown field modifier: \"e\\u\x7b301\x7d\\\"\"" =
        some (.unknownModifier "e\u0301\"" .field) := by
  obtain ⟨injective, recovered, _⟩ := message_injective
  have message :
      message (.unknownModifier "e\u0301\"" .field) =
        "Unknown field modifier: \"e\\u\x7b301\x7d\\\"\"" := by
    decide +kernel
  constructor
  · exact injective.ne (by decide)
  · rw [← message]
    exact recovered _

end Fault

/-! ## Lines that a text cannot leave -/

/-- The characters of general category `Cc` and the two characters that separate
lines and paragraphs. -/
def controls : CharacterClass := ⟨[(0x0, 0x1F), (0x7F, 0x9F), (0x2028, 0x2029)]⟩

/-- True of a line without a control character, in which a quotation holds the
whole of one of the given texts and ends right behind it. If there is no text
the line has no quotation mark at all. -/
structure IsContained (line : String) (texts : List String) : Prop where
  inert : ∀ c ∈ line.toList, controls.contains c = false
  quoting :
    texts = [] ∧ '"' ∉ line.toList ∨
      ∃ text ∈ texts, ∃ before behind,
        Quoted.Quotation line.toList before (Quoted.body text) behind

theorem isUnprintable_of_control {c : Char} (control : controls.contains c = true) :
    isUnprintable c = true := by
  have covered :
      ∀ range ∈ controls.ranges, ∃ wider ∈ unprintable.ranges,
        wider.1 ≤ range.1 ∧ range.2 ≤ wider.2 := by
    decide +kernel
  rw [CharacterClass.contains, List.any_eq_true] at control
  obtain ⟨range, listed, inRange⟩ := control
  obtain ⟨wider, widerListed, below, above⟩ := covered range listed
  rw [isUnprintable, CharacterClass.contains, List.any_eq_true]
  refine ⟨wider, widerListed, ?_⟩
  simp only [Bool.and_eq_true, decide_eq_true_eq] at inRange ⊢
  omega

theorem inert_of_isPrintable {line : String} (printable : IsPrintable line) :
    ∀ c ∈ line.toList, controls.contains c = false := by
  intro c member
  rw [← Bool.not_eq_true]
  intro control
  have visible := printable c member
  rw [isUnprintable_of_control control] at visible
  exact Bool.noConfusion visible

/-- A printable line that shows one of the texts behind an opening without a
quotation mark. -/
theorem isContained_of_quote {opening closing text : String} {texts : List String}
    (printable : IsPrintable (opening ++ Quoted.quote text ++ closing))
    (noMark : '"' ∉ opening.toList) (listed : text ∈ texts) :
    IsContained (opening ++ Quoted.quote text ++ closing) texts where
  inert := inert_of_isPrintable printable
  quoting := by
    have quotation := Quoted.quotation_body noMark text closing.toList
    rw [← String.toList_append, ← String.toList_append] at quotation
    exact Or.inr ⟨text, listed, _, _, quotation⟩

theorem isContained_empty : IsContained (Fault.message .empty) [] where
  inert := inert_of_isPrintable (isPrintable_message .empty)
  quoting := Or.inl ⟨rfl, by decide⟩

theorem isContained_message {fault : Fault} {text : String} (shown : fault.text? = some text)
    {texts : List String} (listed : text ∈ texts) :
    IsContained fault.message texts := by
  rcases fault.message_eq with rfl | ⟨shape, shapeListed, other, alsoShown, _, message⟩
  · cases shown
  · obtain rfl : text = other := Option.some.inj (shown.symm.trans alsoShown)
    have printable := isPrintable_message fault
    rw [message] at printable ⊢
    exact isContained_of_quote printable (Fault.no_mark_in_opening shape shapeListed) listed

theorem text?_termFault (declaration : Declaration) (term : String) :
    (termFault declaration term).text? = some term := by
  unfold termFault
  split <;> rfl

theorem isContained_of_mask_eq_error {declaration : Declaration} {text : String} {fault : Fault}
    (refused : mask declaration text = .error fault) :
    IsContained fault.message (terms text) := by
  rcases mask_eq_error_iff.mp refused with ⟨noTerms, rfl⟩ | termsRefused
  · rw [noTerms]
    exact isContained_empty
  · obtain ⟨before, bad, after, shape, _, _, rfl⟩ := termMasks_eq_error_iff.mp termsRefused
    have listed : bad ∈ terms text := by
      rw [shape]
      exact List.mem_append_right before List.mem_cons_self
    exact isContained_message (text?_termFault declaration bad) listed

/-! ### Records -/

theorem isContained_termRecord {term : String} {texts : List String} (listed : term ∈ texts)
    (value : Mask) :
    IsContained (termRecord term value).message texts := by
  have message :
      (termRecord term value).message =
        "term " ++ Quoted.quote term ++ (" -> " ++ Numeral.hex value) :=
    String.append_assoc
  rw [message]
  refine isContained_of_quote ?_ (by decide) listed
  refine isPrintable_append (isPrintable_append ?_ ?_) (isPrintable_append ?_ ?_)
  · exact isPrintable_of_ascii rfl
  · exact Quoted.isPrintable_quote term
  · exact isPrintable_of_ascii rfl
  · exact isPrintable_of_isBare (isBare_numeral .hex value)

theorem isContained_outcomeRecord {text : String} {texts : List String} (listed : text ∈ texts)
    (declaration : Declaration) (value : Mask) :
    IsContained (outcomeRecord declaration text value).message texts := by
  have message :
      (outcomeRecord declaration text value).message =
        "parsed " ++ declaration.name ++ " flags " ++ Quoted.quote text ++
          (" -> " ++ Numeral.paddedHex value) :=
    String.append_assoc
  rw [message]
  refine isContained_of_quote ?_ (by cases declaration <;> decide) listed
  refine isPrintable_append (isPrintable_append ?_ ?_) (isPrintable_append ?_ ?_)
  · exact isPrintable_of_ascii (by cases declaration <;> rfl)
  · exact Quoted.isPrintable_quote text
  · exact isPrintable_of_ascii rfl
  · exact isPrintable_of_isBare (isBare_numeral .paddedHex value)

theorem isContained_of_mem_journal {declaration : Declaration} {text : String} {entry : Record}
    (member : entry ∈ journal declaration text) :
    IsContained entry.message (text :: terms text) := by
  rw [journal, List.mem_append] at member
  rcases member with inTerms | inOutcome
  · obtain ⟨read, left, progress⟩ := exists_progress declaration (terms text)
    rw [progress.termRecords_eq, List.mem_map] at inTerms
    obtain ⟨⟨term, value⟩, wasRead, rfl⟩ := inTerms
    have listed : term ∈ terms text := by
      rw [progress.whole]
      exact List.mem_append_left left (List.mem_map_of_mem wasRead)
    exact isContained_termRecord (List.mem_cons_of_mem text listed) value
  · cases reading : mask declaration text with
    | error fault => simp [reading] at inOutcome
    | ok value =>
        rw [reading, List.mem_singleton] at inOutcome
        rw [inOutcome]
        exact isContained_outcomeRecord List.mem_cons_self declaration value

theorem isContained_queryRecord (declaration : Declaration) (value : Mask) :
    IsContained (declaration.name ++ " AccessFlagQuery(" ++ Numeral.paddedHex value ++ ")") [] where
  inert := by
    apply inert_of_isPrintable
    refine isPrintable_append (isPrintable_append (isPrintable_append ?_ ?_) ?_) ?_
    · exact isPrintable_declaration_name declaration
    · exact isPrintable_of_ascii rfl
    · exact isPrintable_of_isBare (isBare_numeral .paddedHex value)
    · exact isPrintable_of_ascii rfl
  quoting := by
    have notInName : '"' ∉ declaration.name.toList := by cases declaration <;> decide
    have notInNumeral : '"' ∉ (Numeral.paddedHex value).toList :=
      not_mem_of_isBare (isBare_numeral .paddedHex value) rfl
    refine Or.inl ⟨rfl, ?_⟩
    simp [notInName, notInNumeral]

theorem isContained_of_mem_invocation_journal {invocation : CommandLine.Invocation}
    {entry : Record} (member : entry ∈ invocation.journal) :
    IsContained entry.message (invocation.expression :: terms invocation.expression) ∨
      IsContained entry.message [] := by
  cases reading : invocation.mask with
  | error fault =>
      rw [CommandLine.journal_of_failure reading] at member
      exact Or.inl (isContained_of_mem_journal member)
  | ok value =>
      by_cases isQuery : ∃ layout, invocation.action = .query layout
      · obtain ⟨layout, isQuery⟩ := isQuery
        rw [CommandLine.journal_of_query isQuery reading, List.mem_append,
          List.mem_singleton] at member
        rcases member with inExpression | rfl
        · exact Or.inl (isContained_of_mem_journal inExpression)
        · exact Or.inr (isContained_queryRecord invocation.declaration value)
      · rw [CommandLine.journal_of_other (not_exists.mp isQuery)] at member
        exact Or.inl (isContained_of_mem_journal member)

/-- What a fault or a record says about texts stays on one line and holds no
control character, and no text ends its quotation before its end. This goes for
the faults of expressions, literals and kinds of declaration, for the journal of
an expression and for all that an invocation tells about itself. -/
theorem lines_contained :
    (∀ declaration text fault, mask declaration text = .error fault →
        IsContained fault.message (terms text)) ∧
      (∀ text fault, Literal.read text = .error fault → IsContained fault.message [text]) ∧
      (∀ text fault, Declaration.read text = .error fault → IsContained fault.message [text]) ∧
      (∀ declaration text, ∀ entry ∈ journal declaration text,
        IsContained entry.message (text :: terms text)) ∧
      ∀ invocation : CommandLine.Invocation, ∀ entry ∈ invocation.journal,
        IsContained entry.message (invocation.expression :: terms invocation.expression) ∨
          IsContained entry.message [] := by
  refine ⟨?_, ?_, ?_, ?_, ?_⟩
  · intro declaration text fault refused
    exact isContained_of_mask_eq_error refused
  · intro text fault refused
    obtain ⟨rfl, _⟩ := Literal.read_eq_error_iff.mp refused
    exact isContained_message rfl List.mem_cons_self
  · intro text fault refused
    rw [Declaration.read] at refused
    split at refused
    case h_1 => cases refused
    case h_2 =>
      cases refused
      exact isContained_message rfl List.mem_cons_self
  · intro declaration text entry member
    exact isContained_of_mem_journal member
  · intro invocation entry member
    exact isContained_of_mem_invocation_journal member

theorem lines_contained_hostile :
    mask .field "final,\x1b\"" = .error (.unknownModifier "\x1b\"" .field) ∧
      IsContained "Unknown field modifier: \"\\u\x7b1b\x7d\\\"\"" ["final", "\x1b\""] ∧
      Literal.read "1\"\n\u2028\\" = .error (.invalidLiteral "1\"\n\u2028\\") ∧
      IsContained "Invalid integer literal \"1\\\"\\n\\u\x7b2028\x7d\\\\\"" ["1\"\n\u2028\\"] ∧
      mask .type "\rfinal" = .ok 0x10 ∧
      IsContained "parsed type flags \"\\rfinal\" -> 0x0010" ["\rfinal", "final"] := by
  obtain ⟨expressions, literals, _, journals, _⟩ := lines_contained
  have unknown :
      mask .field "final,\x1b\"" = .error (.unknownModifier "\x1b\"" .field) := rfl
  have unknownMessage :
      Fault.message (.unknownModifier "\x1b\"" .field) =
        "Unknown field modifier: \"\\u\x7b1b\x7d\\\"\"" := by
    decide +kernel
  have invalid :
      Literal.read "1\"\n\u2028\\" = .error (.invalidLiteral "1\"\n\u2028\\") := rfl
  have invalidMessage :
      Fault.message (.invalidLiteral "1\"\n\u2028\\") =
        "Invalid integer literal \"1\\\"\\n\\u\x7b2028\x7d\\\\\"" := by
    decide +kernel
  have parsed : mask .type "\rfinal" = .ok 0x10 := rfl
  have parsedMessage :
      (outcomeRecord .type "\rfinal" 0x10).message =
        "parsed type flags \"\\rfinal\" -> 0x0010" := by
    decide +kernel
  have told : outcomeRecord .type "\rfinal" 0x10 ∈ journal .type "\rfinal" := by
    rw [journal_of_ok parsed]
    exact List.mem_append_right _ List.mem_cons_self
  rw [← unknownMessage, ← invalidMessage, ← parsedMessage]
  exact ⟨unknown, expressions _ _ _ unknown, invalid, literals _ _ invalid, parsed,
    journals _ _ _ told⟩

end AccessMask
