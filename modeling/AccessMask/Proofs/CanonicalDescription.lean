import AccessMask.Proofs.DescriptionReading

/-!
# The texts of descriptions

The texts that descriptions have are described here without the writer: names
in ascending order of bits, then at most one hexadecimal numeral for bits
without a name. Each such text is the description of one mask, the one that
reading it gives.
-/

namespace AccessMask.Description

open Expression Literal

/-! ## The form -/

/-- A numeral in lower case without leading zeros, for a mask none of whose bits
has a name. -/
structure IsRemainder (vocabulary : Vocabulary) (word : String) (mask : Mask) : Prop where
  hexadecimal : ∃ digits,
    word = String.ofList ('0' :: 'x' :: digits) ∧
      (∀ c ∈ digits, c ∈ smallDigits) ∧
      digits.head? ≠ some '0' ∧
      positionalValue .hexadecimal digits = mask.toNat
  nonzero : mask ≠ 0
  unnamed : mask &&& vocabulary.namedMask = 0

/-- Words with single spaces between them: names by ascending bit, and behind
them at most one remainder. -/
def IsCanonical (vocabulary : Vocabulary) (text : String) : Prop :=
  ∃ (named : List NamedBit) (remainder : Option String),
    (∀ entry ∈ named, entry ∈ vocabulary.entries) ∧
      named.Pairwise (·.bit < ·.bit) ∧
      (∀ word ∈ remainder, ∃ mask, IsRemainder vocabulary word mask) ∧
      named.map (·.name) ++ remainder.toList ≠ [] ∧
      text = " ".intercalate (named.map (·.name) ++ remainder.toList)

/-! ## Remainders -/

theorem toNat_ne_zero {mask : Mask} (nonzero : mask ≠ 0) : mask.toNat ≠ 0 := by
  intro zero
  apply nonzero
  exact BitVec.eq_of_toNat_eq zero

theorem isRemainder_iff {vocabulary : Vocabulary} {word : String} {mask : Mask} :
    IsRemainder vocabulary word mask ↔
      word = Numeral.hex mask ∧ mask ≠ 0 ∧ mask &&& vocabulary.namedMask = 0 := by
  have wholeTable : smallDigits.take Radix.hexadecimal.base = smallDigits := rfl
  constructor
  · intro remainder
    rcases remainder with ⟨⟨digits, rfl, small, noLeadingZero, value⟩, nonzero, unnamed⟩
    refine ⟨?_, nonzero, unnamed⟩
    have nonempty : digits ≠ [] := by
      intro empty
      rw [empty] at value
      exact toNat_ne_zero nonzero value.symm
    have digitsBack : Nat.toDigits 16 (positionalValue .hexadecimal digits) = digits :=
      toDigits_positionalValue nonempty small noLeadingZero
    rw [value] at digitsBack
    rw [Numeral.hex, Numeral.hexDigits, digitsBack]
  · intro numeral
    rcases numeral with ⟨rfl, nonzero, unnamed⟩
    refine ⟨⟨Nat.toDigits 16 mask.toNat, rfl, ?_, ?_, ?_⟩, nonzero, unnamed⟩
    · intro c member
      rw [← wholeTable]
      exact mem_smallDigits_of_mem_toDigits member
    · have noLeadingZero : (Nat.toDigits Radix.hexadecimal.base mask.toNat).head? ≠ some '0' :=
        toDigits_head?_ne_zero (toNat_ne_zero nonzero)
      exact noLeadingZero
    · exact positionalValue_toDigits .hexadecimal mask.toNat

/-! ## Writing and reading the form -/

/-- The words that a description has for its unnamed bits. -/
def remainderOf (vocabulary : Vocabulary) (mask : Mask) : Option String :=
  if vocabulary.unnamedMask mask = 0 then none
  else some (Numeral.hex (vocabulary.unnamedMask mask))

theorem words_eq (vocabulary : Vocabulary) (mask : Mask) :
    vocabulary.words mask =
      (vocabulary.namedBits mask).map (·.name) ++ (remainderOf vocabulary mask).toList := by
  by_cases noRest : vocabulary.unnamedMask mask = 0
  · rw [Vocabulary.words, remainderOf, if_pos noRest, if_pos noRest]
    rfl
  · rw [Vocabulary.words, remainderOf, if_neg noRest, if_neg noRest]
    rfl

theorem isCanonical_text (declaration : Declaration) {mask : Mask} (nonzero : mask ≠ 0) :
    IsCanonical declaration.modifiers (text ⟨mask, declaration⟩) := by
  let vocabulary := declaration.modifiers
  refine ⟨vocabulary.namedBits mask, remainderOf vocabulary mask, ?_, ?_, ?_, ?_, ?_⟩
  · intro entry member
    exact (Vocabulary.mem_namedBits.mp member).1
  · exact vocabulary.ascending.filter _
  · intro word isRemainder
    refine ⟨vocabulary.unnamedMask mask, isRemainder_iff.mpr ?_⟩
    by_cases noRest : vocabulary.unnamedMask mask = 0
    · rw [remainderOf, if_pos noRest] at isRemainder
      exact absurd isRemainder (Option.not_mem_none word)
    · rw [remainderOf, if_neg noRest, Option.mem_some_iff] at isRemainder
      have apart := Vocabulary.namedMask_and_unnamedMask vocabulary mask
      rw [BitVec.and_comm] at apart
      exact ⟨isRemainder.symm, noRest, apart⟩
  · rw [← words_eq]
    exact words_ne_nil nonzero
  · rw [← words_eq]
    rfl

/-- The mask of a text in canonical form is put together from its names and its
remainder, and taking it apart gives them back. -/
theorem exists_mask_of_isCanonical {declaration : Declaration} {text : String}
    (canonical : IsCanonical declaration.modifiers text) :
    ∃ mask, mask ≠ 0 ∧ Description.text ⟨mask, declaration⟩ = text := by
  let vocabulary := declaration.modifiers
  obtain ⟨named, remainder, listed, ascending, remainders, nonempty, rfl⟩ := canonical
  have someRest :
      ∃ rest, rest &&& vocabulary.namedMask = 0 ∧
        remainder.toList = if rest = 0 then [] else [Numeral.hex rest] := by
    cases remainder with
    | none => exact ⟨0, BitVec.zero_and, rfl⟩
    | some word =>
        obtain ⟨rest, isRemainder⟩ := remainders word rfl
        obtain ⟨rfl, nonzero, unnamed⟩ := isRemainder_iff.mp isRemainder
        exact ⟨rest, unnamed, by rw [if_neg nonzero]; rfl⟩
  rcases someRest with ⟨rest, unnamed, restWords⟩
  let mask := Mask.union (named.map (·.bit)) ||| rest
  have namedBack : vocabulary.namedBits mask = named :=
    Vocabulary.namedBits_union_or listed unnamed ascending
  have restBack : vocabulary.unnamedMask mask = rest :=
    Vocabulary.unnamedMask_union_or listed unnamed
  have wordsBack : vocabulary.words mask = named.map (·.name) ++ remainder.toList := by
    rw [Vocabulary.words, namedBack, restBack, restWords]
  refine ⟨mask, ?_, congrArg (" ".intercalate ·) wordsBack⟩
  intro zero
  rw [zero, words_zero] at wordsBack
  exact nonempty wordsBack.symm

theorem text_injective {declaration : Declaration} {left right : Mask}
    (same : text ⟨left, declaration⟩ = text ⟨right, declaration⟩) :
    left = right := by
  have readSame := congrArg (Expression.mask declaration) same
  by_cases leftZero : left = 0
  · by_cases rightZero : right = 0
    · rw [leftZero, rightZero]
    · rw [leftZero, mask_text_zero, mask_text_self declaration rightZero] at readSame
      cases readSame
  · by_cases rightZero : right = 0
    · rw [rightZero, mask_text_zero, mask_text_self declaration leftZero] at readSame
      cases readSame
    · rw [mask_text_self declaration leftZero, mask_text_self declaration rightZero] at readSame
      injection readSame

/-- Descriptions have the empty text and the texts in canonical form, each for
one mask only, and reading gives this mask back. Where reading succeeds with a
mask other than zero, a text is the description of what it reads as exactly if
it is in canonical form. -/
theorem text_canonical (declaration : Declaration) (text : String) :
    ((∃ mask, Description.text ⟨mask, declaration⟩ = text) ↔
        text = "" ∨ IsCanonical declaration.modifiers text) ∧
      (∀ left right,
        Description.text ⟨left, declaration⟩ = text →
        Description.text ⟨right, declaration⟩ = text →
        left = right) ∧
      (∀ mask, Description.text ⟨mask, declaration⟩ = text → text ≠ "" →
        Expression.mask declaration text = .ok mask) ∧
      ∀ mask, Expression.mask declaration text = .ok mask → mask ≠ 0 →
        (Description.text ⟨mask, declaration⟩ = text ↔
          IsCanonical declaration.modifiers text) := by
  refine ⟨⟨?_, ?_⟩, ?_, ?_, ?_⟩
  · intro written
    rcases written with ⟨mask, rfl⟩
    by_cases zero : mask = 0
    · rw [zero]
      exact Or.inl (text_zero declaration)
    · exact Or.inr (isCanonical_text declaration zero)
  · intro form
    rcases form with rfl | canonical
    · exact ⟨0, text_zero declaration⟩
    · obtain ⟨mask, _, written⟩ := exists_mask_of_isCanonical canonical
      exact ⟨mask, written⟩
  · intro left right leftWritten rightWritten
    exact text_injective (leftWritten.trans rightWritten.symm)
  · intro mask written nonempty
    rw [← written]
    apply mask_text_self declaration
    intro zero
    rw [zero, text_zero] at written
    exact nonempty written.symm
  · intro mask read nonzero
    constructor
    · intro written
      rw [← written]
      exact isCanonical_text declaration nonzero
    · intro canonical
      obtain ⟨other, otherNonzero, rfl⟩ := exists_mask_of_isCanonical canonical
      rw [mask_text_self declaration otherNonzero, Except.ok.injEq] at read
      rw [read]

theorem text_canonical_public_remainder :
    Expression.mask .field "public 0x80200" = .ok 0x80201 ∧
      IsCanonical Declaration.field.modifiers "public 0x80200" ∧
      ∀ other, Description.text ⟨other, .field⟩ = "public 0x80200" → other = 0x80201 := by
  have written : Description.text ⟨0x80201, .field⟩ = "public 0x80200" := by decide
  have laws := text_canonical .field "public 0x80200"
  have read := laws.2.2.1 0x80201 written (by decide)
  have canonical := (laws.2.2.2 0x80201 read (by decide)).mp written
  exact ⟨read, canonical, fun other otherWritten => laws.2.1 other 0x80201 otherWritten written⟩

end AccessMask.Description
