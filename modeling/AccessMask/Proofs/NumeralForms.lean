import AccessMask.CommandLine.Outcome
import AccessMask.Proofs.NumeralTerms

/-!
# Numerals wherever they are printed

Each form of a numeral has its places: descriptions and the records of terms, the
records of outcomes, reports and inspections, and the lines that encode a mask.
What is printed there is read back as the mask, as a literal and as an expression
of one term.
-/

namespace AccessMask.Numeral

open CommandLine Expression Literal Text

/-! ## The digits of a form -/

/-- The digits of a mask, in lower case. They start with a zero only where fewer
digits would be too few. -/
structure IsWritten (form : Form) (mask : Mask) (digits : List Char) : Prop where
  small : ∀ c ∈ digits, c ∈ smallDigits.take form.radix.base
  value : positionalValue form.radix digits = mask.toNat
  wide : form.width ≤ digits.length
  tight : digits.head? = some '0' → digits.length = form.width

theorem isWritten_digits (form : Form) (mask : Mask) : IsWritten form mask (form.digits mask) where
  small := form.mem_digits mask
  value := form.positionalValue_digits mask
  wide := form.width_le_length_digits mask
  tight := by
    intro zeroFirst
    by_cases short : (Nat.toDigits form.radix.base mask.toNat).length ≤ form.width
    · rw [Form.digits, List.length_leftpad]
      exact Nat.max_eq_left short
    · have unpadded : form.width - (Nat.toDigits form.radix.base mask.toNat).length = 0 := by
        omega
      rw [Form.digits, List.leftpad, unpadded] at zeroFirst
      have zero : mask.toNat = 0 := by
        by_contra nonzero
        exact toDigits_head?_ne_zero nonzero zeroFirst
      rw [zero, toDigits_zero] at short
      exact absurd form.one_le_width short

theorem mask_write (form : Form) (mask : Mask) (declaration : Declaration) :
    Expression.mask declaration (form.write mask) = .ok mask := by
  rw [mask_eq_ok_iff, form.terms_write]
  exact ⟨List.cons_ne_nil _ _, [mask], .cons (form.termDenotes_write mask declaration) .nil,
    BitVec.or_zero⟩

/-! ## Where numerals are printed -/

/-- True of the text that stands for a mask in all the places where a form is
printed. -/
inductive IsPrinted (mask : Mask) (numeral : String) : Form → Prop
  | hex :
      (∀ (declaration : Declaration) (whole : Mask),
        declaration.modifiers.unnamedMask whole = mask → mask ≠ 0 →
          Description.words ⟨whole, declaration⟩ =
            (declaration.modifiers.namedBits whole).map (·.name) ++ [numeral]) →
      (∀ term,
        (termRecord term mask).message =
          "term " ++ Quoted.quote term ++ " -> " ++ numeral) →
      IsPrinted mask numeral .hex
  | paddedHex :
      (∀ declaration text,
        (outcomeRecord declaration text mask).message =
          "parsed " ++ declaration.name ++ " flags " ++ Quoted.quote text ++ " -> " ++ numeral) →
      (∀ inspection : Inspection, inspection.mask = mask →
        inspection.debugText = "AccessFlagQuery(" ++ numeral ++ ")") →
      (∀ report : Report, report.inspection.mask = mask →
        ⟨"flags", "Flags", .text numeral⟩ ∈ report.entries) →
      (∀ declaration,
        Action.encode.output declaration mask = numeral ++ " " ++ Numeral.decimal mask ++ "\n") →
      IsPrinted mask numeral .paddedHex
  | decimal :
      (∀ declaration,
        Action.encode.output declaration mask = Numeral.paddedHex mask ++ " " ++ numeral ++ "\n") →
      IsPrinted mask numeral .decimal

theorem isPrinted_write (form : Form) (mask : Mask) :
    IsPrinted mask (form.write mask) form := by
  cases form with
  | hex =>
      refine .hex ?_ (fun _ => rfl)
      intro declaration whole remainder nonzero
      subst remainder
      rw [Description.words, Vocabulary.words, if_neg nonzero]
      rfl
  | paddedHex =>
      refine .paddedHex (fun _ _ => rfl) ?_ ?_ (fun _ => rfl)
      · intro inspection sameMask
        rw [← sameMask]
        rfl
      · intro report sameMask
        rw [← sameMask]
        exact List.mem_cons_of_mem _ List.mem_cons_self
  | decimal => exact .decimal fun _ => rfl

/-- In every place where it is printed a numeral has the digits of its mask and no
more of them than its form asks for. It is a literal for the mask and starts with
a digit. In an expression it is one term, if nothing touches it, and alone it is
an expression for the mask, whatever the kind of declaration. -/
theorem numeral_reads_back (form : Form) (mask : Mask) :
    let numeral := form.write mask
    IsPrinted mask numeral form ∧
      (∃ digits, numeral.toList = form.opening ++ digits ∧ IsWritten form mask digits) ∧
      Literal.read numeral = .ok mask ∧
      startsWithDigit numeral = true ∧
      (∀ before after,
        (∀ c ∈ before.toList.getLast?, isSeparator c = true) →
        (∀ c ∈ after.toList.head?, isSeparator c = true) →
        terms (before ++ numeral ++ after) = terms before ++ numeral :: terms after) ∧
      ∀ declaration, Expression.mask declaration numeral = .ok mask := by
  intro numeral
  refine ⟨isPrinted_write form mask, ?_, form.read_write mask, form.startsWithDigit_write mask,
    ?_, ?_⟩
  · exact ⟨form.digits mask, form.toList_write mask, isWritten_digits form mask⟩
  · intro before after ends starts
    exact terms_around (form.isWord_write mask) ends starts
  · exact mask_write form mask

theorem numeral_reads_back_encoded :
    Action.encode.output .type 0x10000 = "0x10000 65536\n" ∧
      Literal.read "65536" = .ok 0x10000 ∧
      terms "volatile,65536|0x1" = ["volatile", "65536", "0x1"] ∧
      Expression.mask .field "65536" = .ok 0x10000 := by
  have decimal : Form.decimal.write 0x10000 = "65536" := rfl
  obtain ⟨printed, _, read, _, around, alone⟩ := numeral_reads_back .decimal 0x10000
  rw [decimal] at printed read around alone
  have commaLast : ∀ c ∈ "volatile,".toList.getLast?, isSeparator c = true := by
    intro c member
    obtain rfl : ',' = c := Option.some.inj member
    rfl
  have barFirst : ∀ c ∈ "|0x1".toList.head?, isSeparator c = true := by
    intro c member
    obtain rfl : '|' = c := Option.some.inj member
    rfl
  cases printed with
  | decimal encoded =>
      exact ⟨encoded .type, read, around "volatile," "|0x1" commaLast barFirst, alone .field⟩

end AccessMask.Numeral
