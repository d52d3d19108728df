import AccessMask.Proofs.ExpressionGrammar
import AccessMask.Proofs.NumeralReading

/-!
# Numerals as terms

In each of its forms the numeral of a mask is one term, which stands for the
mask whatever the kind of declaration.
-/

namespace AccessMask.Numeral

open Expression Literal

/-! ## The characters of a numeral -/

/-- The characters of numerals: lower case digits and the letter that marks the
hexadecimal ones. -/
def characters : List Char := 'x' :: smallDigits

namespace Form

variable (form : Form) (mask : Mask)

theorem mem_characters_of_write : ∀ c ∈ (form.write mask).toList, c ∈ characters := by
  rw [toList_write]
  intro c member
  rcases List.mem_append.mp member with inOpening | inDigits
  · have opening : form.opening ⊆ characters := by cases form <;> decide
    exact opening inOpening
  · exact List.mem_cons_of_mem 'x' (List.mem_of_mem_take (form.mem_digits mask c inDigits))

/-! ## Numerals are words -/

theorem isWord_write : IsWord (form.write mask) := by
  have noSeparator : ∀ c ∈ characters, isSeparator c = false :=
    List.all_iff_forall_prop.mp (by decide)
  constructor
  · rw [toList_write]
    exact List.append_ne_nil_of_right_ne_nil _ (form.digits_ne_nil mask)
  · exact fun c member => noSeparator c (form.mem_characters_of_write mask c member)

theorem terms_write : terms (form.write mask) = [form.write mask] :=
  terms_of_isWord (form.isWord_write mask)

/-! ## What numerals stand for -/

theorem startsWithDigit_write : startsWithDigit (form.write mask) = true := by
  rw [startsWithDigit, toList_write]
  cases form with
  | hex | paddedHex => rfl
  | decimal =>
      have decimalDigits : ∀ c ∈ smallDigits.take Radix.decimal.base, c.isDigit = true :=
        List.all_iff_forall_prop.mp (by decide)
      obtain ⟨first, others, shape⟩ :=
        List.exists_cons_of_ne_nil (digits_ne_nil .decimal mask)
      have inDigits : first ∈ digits .decimal mask := by
        rw [shape]
        exact List.mem_cons_self
      rw [shape]
      exact decimalDigits first (mem_digits .decimal mask first inDigits)

theorem termDenotes_write (declaration : Declaration) :
    TermDenotes declaration (form.write mask) mask :=
  TermDenotes.literal (form.startsWithDigit_write mask) (read_eq_ok_iff.mp (form.read_write mask))

end Form

end AccessMask.Numeral
