import AccessMask.Description
import AccessMask.Proofs.NumeralTerms
import Mathlib.Data.List.TakeWhile
import Mathlib.Tactic.SplitIfs

/-!
# The characters of printed texts

Numerals and descriptions are made of lower case letters, digits and spaces.
Quoted text may hold anything, but every character that is printed for it can
be seen. So it is with the message of a fault, whatever text the message shows.
-/

namespace AccessMask.Text

/-! ## Bare texts -/

/-- True of a lower case letter, a digit and a space. -/
def isBareCharacter (c : Char) : Bool := c.isLower || c.isDigit || c == ' '

/-- True of a text of lower case letters, digits and spaces. -/
def IsBare (text : String) : Prop := ∀ c ∈ text.toList, isBareCharacter c = true

instance (text : String) : Decidable (IsBare text) :=
  decidable_of_iff (text.toList.all isBareCharacter = true) List.all_eq_true

theorem isBare_append {left right : String} (leftBare : IsBare left) (rightBare : IsBare right) :
    IsBare (left ++ right) := by
  rw [IsBare, String.toList_append]
  exact List.forall_mem_append.mpr ⟨leftBare, rightBare⟩

theorem isBare_intercalate {words : List String} (bare : ∀ word ∈ words, IsBare word) :
    IsBare (" ".intercalate words) := by
  induction words with
  | nil => decide
  | cons first rest inductionHypothesis =>
      obtain ⟨firstBare, restBare⟩ := List.forall_mem_cons.mp bare
      cases rest with
      | nil =>
          rw [String.intercalate_singleton]
          exact firstBare
      | cons next others =>
          rw [String.intercalate_cons_cons]
          exact isBare_append (isBare_append firstBare (by decide)) (inductionHypothesis restBare)

theorem not_mem_of_isBare {text : String} (bare : IsBare text) {c : Char}
    (other : isBareCharacter c = false) :
    c ∉ text.toList := by
  intro member
  rw [bare c member] at other
  exact Bool.noConfusion other

/-! ## Cutting at a character -/

section

variable {before : List Char} {stop : Char} (absent : stop ∉ before) (after : List Char)

include absent

theorem takeWhile_before : (before ++ stop :: after).takeWhile (· ≠ stop) = before := by
  have allTaken : ∀ c ∈ before, decide (c ≠ stop) = true := by
    intro c member
    rw [decide_eq_true_eq]
    rintro rfl
    exact absent member
  rw [List.takeWhile_append_of_pos allTaken]
  simp

theorem dropWhile_before : (before ++ stop :: after).dropWhile (· ≠ stop) = stop :: after := by
  have pieces :=
    List.takeWhile_append_dropWhile (p := (· ≠ stop)) (l := before ++ stop :: after)
  rw [takeWhile_before absent] at pieces
  exact List.append_cancel_left pieces

end

/-! ## Printable texts -/

/-- True of a text whose characters can all be seen, spaces included. -/
def IsPrintable (text : String) : Prop := ∀ c ∈ text.toList, isUnprintable c = false

theorem isPrintable_append {left right : String} (leftPrintable : IsPrintable left)
    (rightPrintable : IsPrintable right) :
    IsPrintable (left ++ right) := by
  rw [IsPrintable, String.toList_append]
  exact List.forall_mem_append.mpr ⟨leftPrintable, rightPrintable⟩

theorem not_mem_of_isPrintable {text : String} (printable : IsPrintable text) {c : Char}
    (hidden : isUnprintable c = true) :
    c ∉ text.toList := by
  intro member
  rw [printable c member] at hidden
  exact Bool.noConfusion hidden

/-- The characters from the space to the tilde. -/
def isVisibleAscii (c : Char) : Bool := 0x20 ≤ c.toNat && c.toNat ≤ 0x7E

theorem unprintable_outside_ascii :
    ∀ range ∈ unprintable.ranges, range.2 < 0x20 ∨ 0x7E < range.1 := by
  decide +kernel

theorem isUnprintable_of_ascii {c : Char} (visible : isVisibleAscii c = true) :
    isUnprintable c = false := by
  simp only [isVisibleAscii, Bool.and_eq_true, decide_eq_true_eq] at visible
  rw [isUnprintable, CharacterClass.contains, List.any_eq_false]
  intro range member
  have outside := unprintable_outside_ascii range member
  simp only [Bool.and_eq_true, decide_eq_true_eq]
  omega

theorem isPrintable_of_ascii {text : String} (visible : text.toList.all isVisibleAscii = true) :
    IsPrintable text :=
  fun c member => isUnprintable_of_ascii (List.all_eq_true.mp visible c member)

theorem isVisibleAscii_of_isBareCharacter {c : Char} (bare : isBareCharacter c = true) :
    isVisibleAscii c = true := by
  rw [isBareCharacter, Bool.or_eq_true, Bool.or_eq_true, beq_iff_eq] at bare
  rw [isVisibleAscii, Bool.and_eq_true, decide_eq_true_eq, decide_eq_true_eq]
  rcases bare with (letter | digit) | rfl
  · obtain ⟨low, high⟩ := Bool.and_eq_true_iff.mp letter
    have lower : 0x61 ≤ c.toNat := of_decide_eq_true low
    have upper : c.toNat ≤ 0x7A := of_decide_eq_true high
    omega
  · obtain ⟨low, high⟩ := Bool.and_eq_true_iff.mp digit
    have lower : 0x30 ≤ c.toNat := of_decide_eq_true low
    have upper : c.toNat ≤ 0x39 := of_decide_eq_true high
    omega
  · decide

theorem isPrintable_of_isBare {text : String} (bare : IsBare text) : IsPrintable text :=
  fun c member => isUnprintable_of_ascii (isVisibleAscii_of_isBareCharacter (bare c member))

namespace Quoted

/-- All forms that a character can have between quotes. -/
theorem escape_cases (c : Char) :
    (∃ letter ∈ ['\\', '0', 't', 'r', 'n', '"'], escape c = ['\\', letter]) ∨
      escape c = codePoint c ∨
      isUnprintable c = false ∧ escape c = [c] := by
  unfold escape
  split_ifs with nul tab carriageReturn lineFeed quotationMark backslash hidden
  · exact Or.inl ⟨'0', by decide, rfl⟩
  · exact Or.inl ⟨'t', by decide, rfl⟩
  · exact Or.inl ⟨'r', by decide, rfl⟩
  · exact Or.inl ⟨'n', by decide, rfl⟩
  · exact Or.inl ⟨'"', by decide, rfl⟩
  · exact Or.inl ⟨'\\', by decide, rfl⟩
  · exact Or.inr (Or.inl rfl)
  · exact Or.inr (Or.inr ⟨Bool.eq_false_iff.mpr hidden, rfl⟩)

theorem isVisibleAscii_of_mem_codePoint {c d : Char} (member : d ∈ codePoint c) :
    isVisibleAscii d = true := by
  have digitsVisible : ∀ digit ∈ Literal.smallDigits, isVisibleAscii digit = true :=
    List.all_eq_true.mp rfl
  simp only [codePoint, List.mem_cons, List.mem_append, List.not_mem_nil, or_false] at member
  rcases member with rfl | rfl | rfl | inDigits | rfl
  case inr.inr.inr.inl =>
    have small : d ∈ Literal.smallDigits.take Literal.Radix.hexadecimal.base :=
      Literal.mem_smallDigits_of_mem_toDigits inDigits
    exact digitsVisible d (List.mem_of_mem_take small)
  all_goals rfl

theorem isUnprintable_of_mem_escape {c d : Char} (member : d ∈ escape c) :
    isUnprintable d = false := by
  rcases escape_cases c with ⟨letter, listed, form⟩ | form | ⟨printable, form⟩
  · have visible : ∀ mark ∈ ['\\', '0', 't', 'r', 'n', '"'], isVisibleAscii mark = true :=
      List.all_eq_true.mp rfl
    rw [form, List.mem_pair] at member
    rcases member with rfl | rfl
    · exact isUnprintable_of_ascii rfl
    · exact isUnprintable_of_ascii (visible d listed)
  · rw [form] at member
    exact isUnprintable_of_ascii (isVisibleAscii_of_mem_codePoint member)
  · rw [form, List.mem_singleton] at member
    rw [member]
    exact printable

/-- Nothing unprintable passes the quotes. -/
theorem isPrintable_quote (text : String) : IsPrintable (quote text) := by
  have quotationMark : isUnprintable '"' = false := isUnprintable_of_ascii rfl
  intro d member
  rw [quote, String.toList_ofList, List.mem_cons, List.mem_append, List.mem_singleton] at member
  rcases member with rfl | inBody | rfl
  · exact quotationMark
  · obtain ⟨c, _, inEscape⟩ := List.mem_flatMap.mp inBody
    exact isUnprintable_of_mem_escape inEscape
  · exact quotationMark

end Quoted

end AccessMask.Text

namespace AccessMask

open Text

/-! ## Numerals and descriptions -/

theorem isBare_numeral (form : Numeral.Form) (mask : Mask) : IsBare (form.write mask) := by
  have bare : ∀ c ∈ Numeral.characters, isBareCharacter c = true :=
    List.all_eq_true.mp rfl
  exact fun c member => bare c (form.mem_characters_of_write mask c member)

theorem isBare_name (declaration : Declaration) :
    ∀ entry ∈ declaration.modifiers.entries, IsBare entry.name := by
  cases declaration <;> exact List.all_iff_forall_prop.mp rfl

theorem isBare_description (mask : Mask) (declaration : Declaration) :
    IsBare (Description.text ⟨mask, declaration⟩) :=
  isBare_intercalate (Vocabulary.forall_words (isBare_name declaration) (isBare_numeral .hex _))

/-! ## Messages -/

theorem isPrintable_declaration_name (declaration : Declaration) :
    IsPrintable declaration.name :=
  isPrintable_of_ascii (by cases declaration <;> rfl)

theorem isPrintable_message (fault : Fault) : IsPrintable fault.message := by
  cases fault with
  | empty => exact isPrintable_of_ascii rfl
  | unknownModifier name declaration =>
      refine isPrintable_append (isPrintable_append (isPrintable_append ?_ ?_) ?_) ?_
      · exact isPrintable_of_ascii rfl
      · exact isPrintable_declaration_name declaration
      · exact isPrintable_of_ascii rfl
      · exact Quoted.isPrintable_quote name
  | invalidLiteral text =>
      exact isPrintable_append (isPrintable_of_ascii rfl) (Quoted.isPrintable_quote text)
  | unknownDeclaration text =>
      refine isPrintable_append (isPrintable_append ?_ ?_) ?_
      · exact isPrintable_of_ascii rfl
      · exact Quoted.isPrintable_quote text
      · exact isPrintable_of_ascii rfl

end AccessMask
