import AccessMask.Numeral
import AccessMask.Proofs.LiteralGrammar
import Mathlib.Data.Nat.Digits.Lemmas

/-!
# Numerals as literals

The digits that a number is written with are a digit text of the grammar and
have the number as their value. Without leading zeros they are the only such
text in lower case. A numeral has one of three forms, and in each of them it is
a literal for the mask that it was written from.
-/

namespace AccessMask.Literal

/-! ## The digits of a number -/

theorem toDigits_eq {base : Nat} (proper : 1 < base) (number : Nat) (positive : number ≠ 0) :
    Nat.toDigits base number = ((Nat.digits base number).map Nat.digitChar).reverse := by
  induction number using Nat.strong_induction_on with
  | _ number inductionHypothesis =>
      by_cases small : number < base
      · rw [Nat.toDigits_of_lt_base small, Nat.digits_of_lt base number positive small]
        rfl
      · have large : base ≤ number := Nat.le_of_not_lt small
        have shorter : number / base < number := Nat.div_lt_self (by omega) proper
        have quotientPositive : number / base ≠ 0 :=
          (Nat.div_pos large (by omega)).ne'
        have digitsUnfolded :
            Nat.digits base number = number % base :: Nat.digits base (number / base) :=
          Nat.digits_eq_cons_digits_div proper positive
        rw [Nat.toDigits_of_base_le proper large, digitsUnfolded, List.map_cons,
          List.reverse_cons, inductionHypothesis (number / base) shorter quotientPositive]

theorem digitChar_mem_and_value :
    ∀ value < 16,
      Nat.digitChar value ∈ smallDigits ∧ digitValue (Nat.digitChar value) = value := by
  intro value below
  have checked :
      ∀ digit ∈ List.range 16,
        Nat.digitChar digit ∈ smallDigits ∧ digitValue (Nat.digitChar digit) = digit := by
    decide
  exact checked value (List.mem_range.mpr below)

theorem digitChar_digitValue : ∀ c ∈ smallDigits, Nat.digitChar (digitValue c) = c :=
  List.all_iff_forall_prop.mp (by decide)

theorem Radix.one_lt_base (radix : Radix) : 1 < radix.base := by
  cases radix <;> decide

theorem Radix.base_le_sixteen (radix : Radix) : radix.base ≤ 16 := by
  cases radix <;> decide

theorem toDigits_zero (radix : Radix) : Nat.toDigits radix.base 0 = ['0'] := by
  cases radix <;> rfl

theorem mem_smallDigits_take_iff (radix : Radix) :
    ∀ c ∈ smallDigits, c ∈ smallDigits.take radix.base ↔ digitValue c < radix.base := by
  cases radix <;> exact List.all_iff_forall_prop.mp (by decide)

/-- Digits are written in lower case. -/
theorem mem_smallDigits_of_mem_toDigits {radix : Radix} {number : Nat} {c : Char}
    (member : c ∈ Nat.toDigits radix.base number) :
    c ∈ smallDigits.take radix.base := by
  by_cases zero : number = 0
  · subst zero
    rw [toDigits_zero] at member
    obtain rfl := List.mem_singleton.mp member
    cases radix <;> decide
  · rw [toDigits_eq radix.one_lt_base number zero, List.mem_reverse, List.mem_map] at member
    obtain ⟨value, inDigits, rfl⟩ := member
    have below : value < radix.base := Nat.digits_lt_base radix.one_lt_base inDigits
    obtain ⟨listed, sameValue⟩ :=
      digitChar_mem_and_value value (below.trans_le radix.base_le_sixteen)
    rw [mem_smallDigits_take_iff radix _ listed, sameValue]
    exact below

/-- The digits put in front are zeros, which every radix has. -/
theorem mem_smallDigits_of_mem_leftpad {radix : Radix} {number length : Nat} {c : Char}
    (member : c ∈ (Nat.toDigits radix.base number).leftpad length '0') :
    c ∈ smallDigits.take radix.base := by
  rw [List.leftpad, List.mem_append, List.mem_replicate] at member
  rcases member with ⟨_, rfl⟩ | inDigits
  · cases radix <;> decide
  · exact mem_smallDigits_of_mem_toDigits inDigits

theorem underscore_not_mem_digits : '_' ∉ smallDigits := by
  decide

/-- A text of lower case digits has no underscore to mind. -/
theorem isDigits_of_small {radix : Radix} {digits : List Char} (nonempty : digits ≠ [])
    (small : ∀ c ∈ digits, c ∈ smallDigits.take radix.base) :
    IsDigits radix digits := by
  have noUnderscore : ∀ c ∈ digits, c ≠ '_' := by
    intro c member same
    apply underscore_not_mem_digits
    rw [← same]
    exact List.mem_of_mem_take (small c member)
  refine ⟨nonempty, ?_, ?_, ?_⟩
  · intro start
    exact noUnderscore '_' (List.mem_of_head? start) rfl
  · intro ending
    exact noUnderscore '_' (List.mem_of_getLast? ending) rfl
  · intro c member
    exact Or.inr (Or.inl (small c member))

theorem positionalValue_of_small {radix : Radix} {digits : List Char}
    (small : ∀ c ∈ digits, c ∈ smallDigits.take radix.base) :
    positionalValue radix digits = Nat.ofDigits radix.base (digits.map digitValue).reverse := by
  have noUnderscore : digits.filter (· ≠ '_') = digits := by
    rw [List.filter_eq_self]
    intro c member
    apply decide_eq_true
    intro same
    apply underscore_not_mem_digits
    rw [← same]
    exact List.mem_of_mem_take (small c member)
  rw [positionalValue, noUnderscore]

theorem isDigits_toDigits (radix : Radix) (number : Nat) :
    IsDigits radix (Nat.toDigits radix.base number) :=
  isDigits_of_small Nat.toDigits_ne_nil fun _ member => mem_smallDigits_of_mem_toDigits member

theorem positionalValue_toDigits (radix : Radix) (number : Nat) :
    positionalValue radix (Nat.toDigits radix.base number) = number := by
  rw [positionalValue_of_small fun _ member => mem_smallDigits_of_mem_toDigits member]
  by_cases zero : number = 0
  · subst zero
    rw [toDigits_zero]
    cases radix <;> decide
  · have valuesBack :
        ((Nat.digits radix.base number).map Nat.digitChar).map digitValue =
          Nat.digits radix.base number := by
      have fixed :
          ∀ value ∈ Nat.digits radix.base number,
            (digitValue ∘ Nat.digitChar) value = id value := by
        intro value member
        have below : value < radix.base := Nat.digits_lt_base radix.one_lt_base member
        exact (digitChar_mem_and_value value (below.trans_le radix.base_le_sixteen)).2
      rw [List.map_map, List.map_congr_left fixed, List.map_id]
    rw [toDigits_eq radix.one_lt_base number zero, List.map_reverse, List.reverse_reverse,
      valuesBack, Nat.ofDigits_digits]

theorem toDigits_head?_ne_zero {radix : Radix} {number : Nat} (positive : number ≠ 0) :
    (Nat.toDigits radix.base number).head? ≠ some '0' := by
  intro leadingZero
  have nonempty : Nat.digits radix.base number ≠ [] :=
    Nat.digits_ne_nil_iff_ne_zero.mpr positive
  rw [toDigits_eq radix.one_lt_base number positive, List.head?_reverse, List.getLast?_map,
    List.getLast?_eq_some_getLast nonempty, Option.map_some, Option.some.injEq,
    Nat.digitChar_eq_zero] at leadingZero
  exact Nat.getLast_digit_ne_zero radix.base positive leadingZero

/-- A number is written in one way only in lower case and without leading
zeros. -/
theorem toDigits_positionalValue {radix : Radix} {digits : List Char} (nonempty : digits ≠ [])
    (small : ∀ c ∈ digits, c ∈ smallDigits.take radix.base)
    (noLeadingZero : digits.head? ≠ some '0') :
    Nat.toDigits radix.base (positionalValue radix digits) = digits := by
  let values := (digits.map digitValue).reverse
  have listed : ∀ c ∈ digits, c ∈ smallDigits :=
    fun c member => List.mem_of_mem_take (small c member)
  have valuesBelow : ∀ value ∈ values, value < radix.base := by
    intro value member
    rw [List.mem_reverse, List.mem_map] at member
    obtain ⟨c, inDigits, rfl⟩ := member
    exact (mem_smallDigits_take_iff radix c (listed c inDigits)).mp (small c inDigits)
  have lastNonzero : ∀ valuesNonempty : values ≠ [], values.getLast valuesNonempty ≠ 0 := by
    intro valuesNonempty zero
    obtain ⟨first, others, rfl⟩ := List.exists_cons_of_ne_nil nonempty
    have firstValue : digitValue first = 0 := by simpa [values] using zero
    have firstBack := digitChar_digitValue first (listed first List.mem_cons_self)
    rw [firstValue] at firstBack
    exact noLeadingZero (congrArg some firstBack.symm)
  have value : positionalValue radix digits = Nat.ofDigits radix.base values :=
    positionalValue_of_small small
  have digitsBack : Nat.digits radix.base (positionalValue radix digits) = values := by
    rw [value]
    exact Nat.digits_ofDigits radix.base radix.one_lt_base values valuesBelow lastNonzero
  have positive : positionalValue radix digits ≠ 0 := by
    rw [← Nat.digits_ne_nil_iff_ne_zero, digitsBack]
    simpa [values] using nonempty
  have charactersBack : (digits.map digitValue).map Nat.digitChar = digits := by
    have fixed : ∀ c ∈ digits, (Nat.digitChar ∘ digitValue) c = id c :=
      fun c member => digitChar_digitValue c (listed c member)
    rw [List.map_map, List.map_congr_left fixed, List.map_id]
  rw [toDigits_eq radix.one_lt_base _ positive, digitsBack, List.map_reverse, List.reverse_reverse,
    charactersBack]

theorem padded_leftpad (digits : List Char) (length : Nat) :
    Padded digits (digits.leftpad length '0') := by
  rw [List.leftpad]
  induction length - digits.length with
  | zero => exact .unpadded
  | succ count inductionHypothesis => exact .zero inductionHypothesis

end AccessMask.Literal

namespace AccessMask.Numeral

open Literal

/-! ## Forms -/

/-- The forms of a numeral. -/
inductive Form where
  | hex
  | paddedHex
  | decimal
  deriving DecidableEq, Repr

namespace Form

/-- The numeral of a mask. -/
def write : Form → Mask → String
  | .hex => Numeral.hex
  | .paddedHex => Numeral.paddedHex
  | .decimal => Numeral.decimal

def radix : Form → Radix
  | .hex => .hexadecimal
  | .paddedHex => .hexadecimal
  | .decimal => .decimal

/-- What stands in front of the digits. -/
def opening : Form → List Char
  | .hex => ['0', 'x']
  | .paddedHex => ['0', 'x']
  | .decimal => []

/-- The least number of digits. -/
def width : Form → Nat
  | .hex => 1
  | .paddedHex => 4
  | .decimal => 1

variable (form : Form) (mask : Mask)

/-- The digits of a mask, with zeros in front of them if there are too few. -/
def digits : List Char := (Nat.toDigits form.radix.base mask.toNat).leftpad form.width '0'

theorem toList_write : (form.write mask).toList = form.opening ++ form.digits mask := by
  have noPadding (base : Nat) : 1 - (Nat.toDigits base mask.toNat).length = 0 :=
    Nat.sub_eq_zero_of_le (List.length_pos_of_ne_nil Nat.toDigits_ne_nil)
  cases form with
  | paddedHex => exact String.toList_ofList
  | hex | decimal =>
      rw [digits, List.leftpad, width, noPadding]
      exact String.toList_ofList

theorem one_le_width : 1 ≤ form.width := by
  cases form <;> decide

theorem width_le_length_digits : form.width ≤ (form.digits mask).length := by
  rw [digits, List.length_leftpad]
  exact Nat.le_max_left _ _

theorem digits_ne_nil : form.digits mask ≠ [] :=
  List.ne_nil_of_length_pos (form.one_le_width.trans (form.width_le_length_digits mask))

theorem mem_digits : ∀ c ∈ form.digits mask, c ∈ smallDigits.take form.radix.base :=
  fun _ member => mem_smallDigits_of_mem_leftpad member

theorem positionalValue_digits :
    positionalValue form.radix (form.digits mask) = mask.toNat := by
  have padding := padded_leftpad (Nat.toDigits form.radix.base mask.toNat) form.width
  have sameValue := (padding.isDigits_and_value (isDigits_toDigits form.radix mask.toNat)).2
  exact sameValue.trans (positionalValue_toDigits form.radix mask.toNat)

/-! ## Reading a numeral -/

theorem isDigits_digits : IsDigits form.radix (form.digits mask) :=
  isDigits_of_small (form.digits_ne_nil mask) (form.mem_digits mask)

theorem opens_digits :
    Opens (form.opening ++ form.digits mask) form.radix (form.digits mask) := by
  cases form with
  | hex | paddedHex => exact Opens.marked _ (by decide)
  | decimal => exact Opens.unmarked (unmarked_of_isDigits (isDigits_digits .decimal mask))

/-- A numeral is a literal for the mask that it was written from. -/
theorem read_write : Literal.read (form.write mask) = .ok mask := by
  rw [read_eq_ok_iff, toList_write, denotes_iff_of_opens (form.opens_digits mask)]
  exact ⟨form.isDigits_digits mask, form.positionalValue_digits mask⟩

end Form

theorem read_hex (mask : Mask) : Literal.read (hex mask) = .ok mask :=
  Form.hex.read_write mask

theorem read_paddedHex (mask : Mask) : Literal.read (paddedHex mask) = .ok mask :=
  Form.paddedHex.read_write mask

end AccessMask.Numeral
