import AccessMask.Literal
import Mathlib.Data.Bool.AllAny
import Mathlib.Data.Nat.Digits.Defs

/-!
# The grammar of literals

A literal is an opening that marks a radix and the digits of a number in that
radix. The grammar below is written without the reader: the digits of a radix
come from a table, and the number is the positional value of the digits over
the natural numbers. Reading accepts exactly the literals whose number fits in
a mask and refuses every other text whole.
-/

namespace AccessMask.Literal

/-! ## The grammar -/

/-- The openings that mark a radix. A decimal literal has none. -/
def openings : List (List Char × Radix) :=
  [(['0', 'x'], .hexadecimal), (['0', 'X'], .hexadecimal),
    (['0', 'o'], .octal), (['0', 'O'], .octal),
    (['0', 'b'], .binary), (['0', 'B'], .binary)]

/-- The radix of a text and what is left of the text behind its opening. A text
that starts with no opening is decimal as a whole. -/
inductive Opens : List Char → Radix → List Char → Prop
  | marked {opening : List Char} {radix : Radix} (digits : List Char) :
      (opening, radix) ∈ openings →
      Opens (opening ++ digits) radix digits
  | unmarked {text : List Char} :
      (∀ entry ∈ openings, ¬ entry.1 <+: text) →
      Opens text .decimal text

/-- The digits by value, letters in lower case. -/
def smallDigits : List Char :=
  ['0', '1', '2', '3', '4', '5', '6', '7', '8', '9', 'a', 'b', 'c', 'd', 'e', 'f']

/-- The digits by value, letters in upper case. -/
def capitalDigits : List Char :=
  ['0', '1', '2', '3', '4', '5', '6', '7', '8', '9', 'A', 'B', 'C', 'D', 'E', 'F']

/-- The digits of a radix, in either case. -/
def Radix.HasDigit (radix : Radix) (c : Char) : Prop :=
  c ∈ smallDigits.take radix.base ∨ c ∈ capitalDigits.take radix.base

instance (radix : Radix) (c : Char) : Decidable (radix.HasDigit c) :=
  inferInstanceAs (Decidable (_ ∨ _))

/-- The value of a digit: its place in the list that holds it. -/
def digitValue (c : Char) : Nat :=
  if c ∈ smallDigits then smallDigits.idxOf c else capitalDigits.idxOf c

/-- The texts that may follow the opening of a radix. -/
structure IsDigits (radix : Radix) (digits : List Char) : Prop where
  nonempty : digits ≠ []
  solidStart : digits.head? ≠ some '_'
  solidEnd : digits.getLast? ≠ some '_'
  admitted : ∀ c ∈ digits, c = '_' ∨ radix.HasDigit c

/-- The positional value of a digit text, underscores dropped. -/
def positionalValue (radix : Radix) (digits : List Char) : Nat :=
  Nat.ofDigits radix.base ((digits.filter (· ≠ '_')).map digitValue).reverse

/-- The number that a text stands for as a literal. It need not fit in a mask. -/
def Denotes (text : List Char) (number : Nat) : Prop :=
  ∃ radix digits,
    Opens text radix digits ∧ IsDigits radix digits ∧
      positionalValue radix digits = number

/-! ## Openings -/

theorem splitRadix_opening {opening : List Char} {radix : Radix}
    (listed : (opening, radix) ∈ openings) (digits : List Char) :
    splitRadix (opening ++ digits) = (radix, digits) := by
  simp only [openings, List.mem_cons, Prod.mk.injEq, List.not_mem_nil, or_false] at listed
  rcases listed with ⟨rfl, rfl⟩ | ⟨rfl, rfl⟩ | ⟨rfl, rfl⟩ | ⟨rfl, rfl⟩ | ⟨rfl, rfl⟩ | ⟨rfl, rfl⟩ <;>
    rfl

theorem splitRadix_unmarked {text : List Char}
    (unmarked : ∀ entry ∈ openings, ¬ entry.1 <+: text) :
    splitRadix text = (.decimal, text) := by
  fun_cases splitRadix text with
  | case7 => rfl
  | case1 digits => exact absurd ⟨digits, rfl⟩ (unmarked (['0', 'x'], .hexadecimal) (by decide))
  | case2 digits => exact absurd ⟨digits, rfl⟩ (unmarked (['0', 'X'], .hexadecimal) (by decide))
  | case3 digits => exact absurd ⟨digits, rfl⟩ (unmarked (['0', 'o'], .octal) (by decide))
  | case4 digits => exact absurd ⟨digits, rfl⟩ (unmarked (['0', 'O'], .octal) (by decide))
  | case5 digits => exact absurd ⟨digits, rfl⟩ (unmarked (['0', 'b'], .binary) (by decide))
  | case6 digits => exact absurd ⟨digits, rfl⟩ (unmarked (['0', 'B'], .binary) (by decide))

theorem opens_splitRadix (text : List Char) :
    Opens text (splitRadix text).1 (splitRadix text).2 := by
  by_cases marked : ∃ entry ∈ openings, entry.1 <+: text
  · rcases marked with ⟨⟨opening, radix⟩, listed, digits, rfl⟩
    rw [splitRadix_opening listed digits]
    exact Opens.marked digits listed
  · have unmarked : ∀ entry ∈ openings, ¬ entry.1 <+: text := by
      intro entry listed found
      exact marked ⟨entry, listed, found⟩
    rw [splitRadix_unmarked unmarked]
    exact Opens.unmarked unmarked

/-- The reader takes off the opening that the grammar puts there. -/
theorem opens_iff {text digits : List Char} {radix : Radix} :
    Opens text radix digits ↔ splitRadix text = (radix, digits) := by
  constructor
  · intro opens
    cases opens with
    | marked digits listed => exact splitRadix_opening listed digits
    | unmarked unmarked => exact splitRadix_unmarked unmarked
  · intro shape
    have opens := opens_splitRadix text
    rw [shape] at opens
    exact opens

/-! ## Digits -/

theorem mem_digits_of_between {first last c : Char}
    (covered :
      ∀ code ∈ List.range' first.toNat (last.toNat + 1 - first.toNat),
        Char.ofNat code ∈ smallDigits ++ capitalDigits)
    (range : first ≤ c ∧ c ≤ last) :
    c ∈ smallDigits ++ capitalDigits := by
  have lower : first.toNat ≤ c.toNat := range.1
  have upper : c.toNat ≤ last.toNat := range.2
  have code : c.toNat ∈ List.range' first.toNat (last.toNat + 1 - first.toNat) := by
    rw [List.mem_range'_1]
    omega
  simpa only [Char.ofNat_toNat] using covered c.toNat code

/-- The characters that the reader takes for digits are those of the table. -/
theorem mem_digits_of_hexDigit? {c : Char} {value : Nat} (read : hexDigit? c = some value) :
    c ∈ smallDigits ++ capitalDigits := by
  unfold hexDigit? at read
  split at read
  case isTrue range => exact mem_digits_of_between (by decide) range
  case isFalse =>
    split at read
    case isTrue range => exact mem_digits_of_between (by decide) range
    case isFalse =>
      split at read
      case isTrue range => exact mem_digits_of_between (by decide) range
      case isFalse => simp at read

theorem hexDigit?_of_mem :
    ∀ c ∈ smallDigits ++ capitalDigits, hexDigit? c = some (digitValue c) :=
  List.all_iff_forall_prop.mp (by decide)

theorem hasDigit_iff_of_mem (radix : Radix) :
    ∀ c ∈ smallDigits ++ capitalDigits, radix.HasDigit c ↔ digitValue c < radix.base := by
  cases radix <;> exact List.all_iff_forall_prop.mp (by decide)

theorem mem_digits_of_hasDigit {radix : Radix} {c : Char} (digit : radix.HasDigit c) :
    c ∈ smallDigits ++ capitalDigits := by
  rcases digit with small | capital
  · exact List.mem_append_left capitalDigits (List.mem_of_mem_take small)
  · exact List.mem_append_right smallDigits (List.mem_of_mem_take capital)

theorem digit?_eq_some_iff {radix : Radix} {c : Char} {value : Nat} :
    digit? radix c = some value ↔ radix.HasDigit c ∧ digitValue c = value := by
  rw [digit?, Option.filter_eq_some_iff, decide_eq_true_eq]
  constructor
  · intro accepted
    rcases accepted with ⟨read, below⟩
    have listed := mem_digits_of_hexDigit? read
    rw [hexDigit?_of_mem c listed, Option.some.injEq] at read
    subst read
    exact ⟨(hasDigit_iff_of_mem radix c listed).mpr below, rfl⟩
  · intro valued
    rcases valued with ⟨digit, rfl⟩
    have listed := mem_digits_of_hasDigit digit
    exact ⟨hexDigit?_of_mem c listed, (hasDigit_iff_of_mem radix c listed).mp digit⟩

theorem mapM_digit?_eq_some_iff {radix : Radix} {digits : List Char} {values : List Nat} :
    digits.mapM (digit? radix) = some values ↔
      (∀ c ∈ digits, radix.HasDigit c) ∧ digits.map digitValue = values := by
  induction digits generalizing values with
  | nil => simp
  | cons c rest inductionHypothesis =>
      simp only [List.mapM_cons, Option.bind_eq_bind, Option.bind_eq_some_iff, Option.pure_def,
        Option.some.injEq, digit?_eq_some_iff, inductionHypothesis, List.forall_mem_cons,
        List.map_cons]
      constructor
      · rintro ⟨_, ⟨digit, rfl⟩, _, ⟨others, rfl⟩, rfl⟩
        exact ⟨⟨digit, others⟩, rfl⟩
      · rintro ⟨⟨digit, others⟩, rfl⟩
        exact ⟨_, ⟨digit, rfl⟩, _, ⟨others, rfl⟩, rfl⟩

/-! ## Numbers -/

/-- The reader gathers the number from the left, position by position it is the
same number. -/
theorem ofDigits_eq (base : Nat) (values : List Nat) :
    ofDigits base values = Nat.ofDigits base values.reverse := by
  rw [ofDigits, Nat.ofDigits_eq_foldr, List.foldr_reverse]
  simp only [Nat.cast_id, Nat.mul_comm, Nat.add_comm]

theorem hasSolidEnds_iff {digits : List Char} :
    hasSolidEnds digits = true ↔
      digits ≠ [] ∧ digits.head? ≠ some '_' ∧ digits.getLast? ≠ some '_' := by
  cases digits with
  | nil => simp [hasSolidEnds]
  | cons c rest =>
      simp [hasSolidEnds, List.getLast?_cons]

theorem number?_eq_some_iff {radix : Radix} {digits : List Char} {number : Nat} :
    number? radix digits = some number ↔
      IsDigits radix digits ∧ positionalValue radix digits = number := by
  unfold number?
  split
  case isTrue solid =>
    obtain ⟨nonempty, solidStart, solidEnd⟩ := hasSolidEnds_iff.mp solid
    simp only [Option.map_eq_some_iff, mapM_digit?_eq_some_iff, ofDigits_eq]
    constructor
    · intro gathered
      rcases gathered with ⟨_, ⟨digitsOnly, rfl⟩, rfl⟩
      refine ⟨⟨nonempty, solidStart, solidEnd, ?_⟩, rfl⟩
      intro c member
      by_cases underscore : c = '_'
      · exact Or.inl underscore
      · exact Or.inr (digitsOnly c (by simp [member, underscore]))
    · intro valued
      rcases valued with ⟨wellFormed, rfl⟩
      refine ⟨_, ⟨?_, rfl⟩, rfl⟩
      intro c member
      obtain ⟨inDigits, notUnderscore⟩ := List.mem_filter.mp member
      exact (wellFormed.admitted c inDigits).resolve_left (by simpa using notUnderscore)
  case isFalse loose =>
    simp only [reduceCtorEq, false_iff, not_and]
    intro wellFormed
    exact absurd (hasSolidEnds_iff.mpr
      ⟨wellFormed.nonempty, wellFormed.solidStart, wellFormed.solidEnd⟩) loose

/-! ## Reading -/

theorem denotes_iff_of_opens {text digits : List Char} {radix : Radix}
    (opens : Opens text radix digits) (number : Nat) :
    Denotes text number ↔ IsDigits radix digits ∧ positionalValue radix digits = number := by
  constructor
  · intro denotes
    rcases denotes with ⟨otherRadix, otherDigits, otherOpens, wellFormed, value⟩
    have same : (radix, digits) = (otherRadix, otherDigits) :=
      (opens_iff.mp opens).symm.trans (opens_iff.mp otherOpens)
    injection same with sameRadix sameDigits
    subst sameRadix sameDigits
    exact ⟨wellFormed, value⟩
  · intro valued
    exact ⟨radix, digits, opens, valued⟩

theorem read?_eq_some_iff {text : String} {mask : Mask} :
    read? text = some mask ↔ Denotes text.toList mask.toNat := by
  rcases shape : splitRadix text.toList with ⟨radix, digits⟩
  rw [denotes_iff_of_opens (opens_iff.mpr shape)]
  simp only [read?, shape, Option.map_eq_some_iff, Option.filter_eq_some_iff,
    number?_eq_some_iff, decide_eq_true_eq]
  constructor
  · intro accepted
    rcases accepted with ⟨number, ⟨valued, fits⟩, rfl⟩
    rw [BitVec.toNat_ofNat, Nat.mod_eq_of_lt fits]
    exact valued
  · intro valued
    exact ⟨mask.toNat, ⟨valued, mask.isLt⟩, BitVec.ofNat_toNat 32 mask⟩

theorem read_eq_ok_iff {text : String} {mask : Mask} :
    read text = .ok mask ↔ Denotes text.toList mask.toNat := by
  rw [← read?_eq_some_iff, read]
  split
  case h_1 found => simp [found]
  case h_2 missing => simp [missing]

/-- A refused text has no literal value that fits in a mask, and is refused
whole. -/
theorem read_eq_error_iff {text : String} {fault : Fault} :
    read text = .error fault ↔
      fault = .invalidLiteral text ∧
        ∀ number, Denotes text.toList number → 2 ^ 32 ≤ number := by
  constructor
  · intro refused
    have missing : read? text = none := by
      rw [read] at refused
      split at refused
      case h_1 => simp at refused
      case h_2 missing => exact missing
    refine ⟨?_, ?_⟩
    · simpa [read, missing] using refused.symm
    · intro number denotes
      by_contra fits
      have value : (BitVec.ofNat 32 number).toNat = number := by
        rw [BitVec.toNat_ofNat, Nat.mod_eq_of_lt (by omega)]
      rw [← value, ← read?_eq_some_iff, missing] at denotes
      simp at denotes
  · intro large
    rcases large with ⟨rfl, overflows⟩
    have missing : read? text = none := by
      rw [Option.eq_none_iff_forall_ne_some]
      intro mask found
      have overflow := overflows mask.toNat (read?_eq_some_iff.mp found)
      have fits := mask.isLt
      omega
    rw [read, missing]

/-! ## Padding -/

/-- A digit text with leading zeros and inner underscores put in one by one. -/
inductive Padded (digits : List Char) : List Char → Prop
  | unpadded : Padded digits digits
  | zero {padded : List Char} :
      Padded digits padded →
      Padded digits ('0' :: padded)
  | underscore {left right : List Char} :
      left ≠ [] → right ≠ [] →
      Padded digits (left ++ right) →
      Padded digits (left ++ '_' :: right)

theorem hasDigit_zero (radix : Radix) : radix.HasDigit '0' := by
  cases radix <;> decide

theorem IsDigits.zero {radix : Radix} {digits : List Char} (wellFormed : IsDigits radix digits) :
    IsDigits radix ('0' :: digits) where
  nonempty := List.cons_ne_nil '0' digits
  solidStart := by simp
  solidEnd := by
    rw [List.getLast?_cons_of_ne_nil wellFormed.nonempty]
    exact wellFormed.solidEnd
  admitted := by
    rw [List.forall_mem_cons]
    exact ⟨Or.inr (hasDigit_zero radix), wellFormed.admitted⟩

theorem IsDigits.underscore {radix : Radix} {left right : List Char}
    (leftNonempty : left ≠ []) (rightNonempty : right ≠ [])
    (wellFormed : IsDigits radix (left ++ right)) :
    IsDigits radix (left ++ '_' :: right) where
  nonempty := by simp
  solidStart := by
    obtain ⟨first, others, rfl⟩ := List.exists_cons_of_ne_nil leftNonempty
    exact wellFormed.solidStart
  solidEnd := by
    have ending := wellFormed.solidEnd
    rw [List.getLast?_append, List.getLast?_eq_some_getLast rightNonempty, Option.some_or]
      at ending
    rw [List.getLast?_append, List.getLast?_cons_of_ne_nil rightNonempty,
      List.getLast?_eq_some_getLast rightNonempty, Option.some_or]
    exact ending
  admitted := by
    intro c member
    rcases List.mem_append.mp member with inLeft | inRight
    · exact wellFormed.admitted c (List.mem_append_left right inLeft)
    · rcases List.mem_cons.mp inRight with underscore | inRight
      · exact Or.inl underscore
      · exact wellFormed.admitted c (List.mem_append_right left inRight)

theorem positionalValue_zero (radix : Radix) (digits : List Char) :
    positionalValue radix ('0' :: digits) = positionalValue radix digits := by
  have zeroValue : digitValue '0' = 0 := by decide
  simp [positionalValue, zeroValue, Nat.ofDigits_append]

theorem positionalValue_underscore (radix : Radix) (left right : List Char) :
    positionalValue radix (left ++ '_' :: right) = positionalValue radix (left ++ right) := by
  simp [positionalValue]

/-- Padding keeps a digit text well formed and does not change its value. -/
theorem Padded.isDigits_and_value {radix : Radix} {digits padded : List Char}
    (padding : Padded digits padded) (wellFormed : IsDigits radix digits) :
    IsDigits radix padded ∧ positionalValue radix padded = positionalValue radix digits := by
  induction padding with
  | unpadded => exact ⟨wellFormed, rfl⟩
  | zero _ inductionHypothesis =>
      obtain ⟨paddedWellFormed, sameValue⟩ := inductionHypothesis
      exact ⟨paddedWellFormed.zero, (positionalValue_zero radix _).trans sameValue⟩
  | underscore leftNonempty rightNonempty _ inductionHypothesis =>
      obtain ⟨paddedWellFormed, sameValue⟩ := inductionHypothesis
      exact ⟨paddedWellFormed.underscore leftNonempty rightNonempty,
        (positionalValue_underscore radix _ _).trans sameValue⟩

/-- No opening is made of decimal digits. -/
theorem unmarked_of_isDigits {digits : List Char} (wellFormed : IsDigits .decimal digits) :
    ∀ entry ∈ openings, ¬ entry.1 <+: digits := by
  intro entry listed found
  have foreign :
      (openings.all fun entry =>
        entry.1.any fun c => ¬ (c = '_' ∨ Radix.decimal.HasDigit c)) = true := by
    decide
  have entryForeign := List.all_eq_true.mp foreign entry listed
  obtain ⟨c, member, notAdmitted⟩ := List.any_eq_true.mp entryForeign
  exact of_decide_eq_true notAdmitted (wellFormed.admitted c (found.subset member))

theorem Opens.replace {opening digits others : List Char} {radix : Radix}
    (opens : Opens (opening ++ digits) radix digits) (wellFormed : IsDigits radix others) :
    Opens (opening ++ others) radix others := by
  generalize shape : opening ++ digits = text at opens
  cases opens with
  | marked digits listed =>
      rw [List.append_cancel_right shape]
      exact Opens.marked others listed
  | unmarked =>
      have noOpening : opening = [] := by simpa using shape
      rw [noOpening]
      exact Opens.unmarked (unmarked_of_isDigits wellFormed)

/-- Reading accepts exactly the literals of the grammar whose number fits in a
mask, and gives that number. It refuses every other text whole. Padding changes
neither the answer nor its value. -/
theorem read_exact (text : String) :
    (∀ mask, read text = .ok mask ↔ Denotes text.toList mask.toNat) ∧
      (read text = .error (.invalidLiteral text) ↔
        ∀ number, Denotes text.toList number → 2 ^ 32 ≤ number) ∧
      ∀ opening radix digits padded,
        text.toList = opening ++ digits →
        Opens text.toList radix digits →
        IsDigits radix digits →
        Padded digits padded →
        ∀ mask, read (String.ofList (opening ++ padded)) = .ok mask ↔ read text = .ok mask := by
  refine ⟨fun mask => read_eq_ok_iff, ?_, ?_⟩
  · rw [read_eq_error_iff]
    exact and_iff_right rfl
  · intro opening radix digits padded shape opens wellFormed padding mask
    obtain ⟨paddedWellFormed, sameValue⟩ := padding.isDigits_and_value wellFormed
    have paddedOpens : Opens (opening ++ padded) radix padded := by
      rw [shape] at opens
      exact opens.replace paddedWellFormed
    rw [read_eq_ok_iff, read_eq_ok_iff, String.toList_ofList,
      denotes_iff_of_opens paddedOpens, denotes_iff_of_opens opens, sameValue]
    exact and_congr_left fun _ => iff_of_true paddedWellFormed wellFormed

theorem read_exact_padded_hexadecimal :
    Padded ['1', 'F'] ['0', '_', '0', '0', '1', 'F'] ∧ read "0x0_001F" = .ok 0x1F := by
  have zeros : Padded ['1', 'F'] (['0'] ++ ['0', '0', '1', 'F']) :=
    .zero (.zero (.zero .unpadded))
  have padding : Padded ['1', 'F'] ['0', '_', '0', '0', '1', 'F'] :=
    zeros.underscore (by decide) (by decide)
  have opens : Opens ['0', 'x', '1', 'F'] .hexadecimal ['1', 'F'] :=
    opens_iff.mpr rfl
  have wellFormed : IsDigits .hexadecimal ['1', 'F'] :=
    ⟨by decide, by decide, by decide, List.all_iff_forall_prop.mp (by decide)⟩
  have sameReading :=
    (read_exact "0x1F").2.2 ['0', 'x'] .hexadecimal ['1', 'F'] ['0', '_', '0', '0', '1', 'F']
      rfl opens wellFormed padding 0x1F
  exact ⟨padding, sameReading.mpr rfl⟩

end AccessMask.Literal
