import AccessMask.Proofs.Concatenation
import AccessMask.Proofs.TermSets
import AccessMask.Report.Basic

/-!
# Where the answer to a predicate comes from

A mask read from an expression has a bit because of some term. So an inspection
of the mask answers yes exactly if some term alone gives reason for it. For the
predicates of a report that term is the modifier's name or a literal with the
modifier's bit.
-/

namespace AccessMask.Expression

variable {declaration : Declaration}

/-! ## A term on its own -/

theorem mask_of_mem_terms {text term : String} (member : term ∈ terms text) :
    mask declaration term = termMask declaration term := by
  rw [mask, terms_of_isWord (isWord_of_mem_terms member), unionMask_cons]
  exact joined_empty _

theorem mask_of_mem_terms_eq_ok_iff {text term : String} {value : Mask}
    (member : term ∈ terms text) :
    mask declaration term = .ok value ↔ TermDenotes declaration term value := by
  rw [mask_of_mem_terms member, termMask_eq_ok_iff]

/-- No text is a literal unless it starts with a digit. -/
theorem startsWithDigit_of_read? {text : String} {value : Mask}
    (read : Literal.read? text = some value) :
    startsWithDigit text = true := by
  obtain ⟨radix, digits, opens, wellFormed, _⟩ := Literal.read?_eq_some_iff.mp read
  rw [startsWithDigit]
  generalize text.toList = characters at opens
  cases opens with
  | marked digits listed =>
      have zeroFirst : ∀ entry ∈ Literal.openings, entry.1.head? = some '0' := by decide
      rw [List.head?_append, zeroFirst _ listed]
      rfl
  | unmarked =>
      have areDigits : ∀ c, Literal.Radix.decimal.HasDigit c → c.isDigit = true := by
        rintro c (small | capital)
        · exact List.all_eq_true.mp (by decide : (Literal.smallDigits.take 10).all Char.isDigit) c
            small
        · exact List.all_eq_true.mp (by decide : (Literal.capitalDigits.take 10).all Char.isDigit)
            c capital
      obtain ⟨first, others, rfl⟩ := List.exists_cons_of_ne_nil wellFormed.nonempty
      rcases wellFormed.admitted first List.mem_cons_self with rfl | digit
      · exact absurd rfl wellFormed.solidStart
      · exact areDigits first digit

/-! ## Bits of an accepted expression -/

theorem meets_iff_exists_term {text : String} {value : Mask}
    (read : mask declaration text = .ok value) (query : Mask) :
    value &&& query ≠ 0 ↔
      ∃ term ∈ terms text, ∃ bits, TermDenotes declaration term bits ∧ bits &&& query ≠ 0 := by
  rw [Mask.and_ne_zero_iff]
  constructor
  · rintro ⟨position, valueSet, querySet⟩
    obtain ⟨term, member, bits, denotes, bitSet⟩ := (getLsbD_mask_iff read position).mp valueSet
    exact ⟨term, member, bits, denotes, Mask.and_ne_zero_iff.mpr ⟨position, bitSet, querySet⟩⟩
  · rintro ⟨term, member, bits, denotes, shared⟩
    obtain ⟨position, bitSet, querySet⟩ := Mask.and_ne_zero_iff.mp shared
    exact ⟨position, (getLsbD_mask_iff read position).mpr ⟨term, member, bits, denotes, bitSet⟩,
      querySet⟩

end AccessMask.Expression

namespace AccessMask.Inspection

open Expression

/-! ## Predicates and modifiers -/

/-- True of the terms that set a modifier: its name, and the literals with its
bit. -/
def Sets (modifier : NamedBit) (term : String) : Prop :=
  term = modifier.name ∨ ∃ value ∈ Literal.read? term, value &&& modifier.bit ≠ 0

instance (modifier : NamedBit) (term : String) : Decidable (Sets modifier term) :=
  decidable_of_iff
    (term = modifier.name ∨ (Literal.read? term).any fun value => value &&& modifier.bit ≠ 0)
    (by simp [Sets, Option.any_eq_true])

namespace Predicate

/-- The modifier that a predicate asks for. -/
def modifier : Predicate → NamedBit
  | .isPrivate => ⟨"private", Mask.accPrivate⟩
  | .isNotPrivate => ⟨"private", Mask.accPrivate⟩
  | .isFinal => ⟨"final", Mask.accFinal⟩
  | .isAbstract => ⟨"abstract", Mask.accAbstract⟩
  | .isInterface => ⟨"interface", Mask.accInterface⟩
  | .isStatic => ⟨"static", Mask.accStatic⟩
  | .isNotStatic => ⟨"static", Mask.accStatic⟩

/-- True of the predicates that ask for the absence of their modifier. -/
def isNegation : Predicate → Bool
  | .isNotPrivate | .isNotStatic => true
  | .isPrivate | .isFinal | .isAbstract | .isInterface | .isStatic => false

/-- What a predicate says about the terms of an expression. -/
def HoldsOf (predicate : Predicate) (terms : List String) : Prop :=
  if predicate.isNegation then ∀ term ∈ terms, ¬ Sets predicate.modifier term
  else ∃ term ∈ terms, Sets predicate.modifier term

instance (predicate : Predicate) (terms : List String) : Decidable (predicate.HoldsOf terms) :=
  inferInstanceAs <| Decidable <|
    if predicate.isNegation then ∀ term ∈ terms, ¬ Sets predicate.modifier term
    else ∃ term ∈ terms, Sets predicate.modifier term

theorem mem_all (predicate : Predicate) : predicate ∈ all := by
  cases predicate <;> decide

theorem name_injective {left right : Predicate} (same : left.name = right.name) :
    left = right := by
  have distinctNames : (all.map name).Nodup := by decide
  exact List.inj_on_of_nodup_map distinctNames left.mem_all right.mem_all same

/-- No kind of declaration has another name for the bit of a predicate, or
another bit for its name. -/
theorem bit_meets_modifier_iff (declaration : Declaration) (predicate : Predicate) :
    ∀ entry ∈ declaration.modifiers.entries,
      entry.bit &&& predicate.modifier.bit ≠ 0 ↔ entry.name = predicate.modifier.name := by
  cases declaration <;> cases predicate <;> decide

theorem startsWithDigit_modifier (predicate : Predicate) :
    startsWithDigit predicate.modifier.name = false := by
  cases predicate <;> decide

theorem meets_modifier_iff {declaration : Declaration} {term : String} {value : Mask}
    (predicate : Predicate) (denotes : TermDenotes declaration term value) :
    value &&& predicate.modifier.bit ≠ 0 ↔ Sets predicate.modifier term := by
  cases denotes with
  | modifier member =>
      rw [Sets, predicate.bit_meets_modifier_iff declaration _ member, iff_self_or]
      rintro ⟨literal, read, _⟩
      have digit := startsWithDigit_of_read? read
      rw [startsWithDigit_name declaration _ member] at digit
      exact absurd digit Bool.false_ne_true
  | literal digit denotes =>
      have read := Literal.read?_eq_some_iff.mpr denotes
      have notName : term ≠ predicate.modifier.name := by
        rintro rfl
        rw [predicate.startsWithDigit_modifier] at digit
        exact Bool.false_ne_true digit
      simp only [Sets, notName, read, Option.mem_some_iff, false_or, exists_eq_left']

end Predicate

/-! ## Answers -/

theorem satisfies_iff (inspection : Inspection) (predicate : Predicate) :
    inspection.satisfies predicate = true ↔
      if predicate.isNegation then ¬ inspection.mask &&& predicate.modifier.bit ≠ 0
      else inspection.mask &&& predicate.modifier.bit ≠ 0 := by
  cases predicate <;>
    simp [satisfies, includes, Mask.meets, Predicate.isNegation, Predicate.modifier]

theorem satisfies_iff_holdsOf {declaration : Declaration} {text : String} {value : Mask}
    (read : Expression.mask declaration text = .ok value) (predicate : Predicate) :
    (ofDeclaration declaration value).satisfies predicate = true ↔
      predicate.HoldsOf (terms text) := by
  have accepted := (exists_mask_iff.mp ⟨value, read⟩).2
  have source :
      value &&& predicate.modifier.bit ≠ 0 ↔
        ∃ term ∈ terms text, Sets predicate.modifier term := by
    rw [meets_iff_exists_term read]
    constructor
    · rintro ⟨term, member, bits, denotes, shared⟩
      exact ⟨term, member, (predicate.meets_modifier_iff denotes).mp shared⟩
    · rintro ⟨term, member, sets⟩
      obtain ⟨bits, denotes⟩ := accepted term member
      exact ⟨term, member, bits, denotes, (predicate.meets_modifier_iff denotes).mpr sets⟩
  rw [satisfies_iff, mask_ofDeclaration, Predicate.HoldsOf, source]
  simp only [not_exists, not_and]

theorem mem_entries_iff (report : Report) (predicate : Predicate) (answer : Bool) :
    ⟨predicate.name, predicate.name, .truth answer⟩ ∈ report.entries ↔
      answer = report.inspection.satisfies predicate := by
  rw [Report.entries, List.mem_append, List.mem_map]
  constructor
  · rintro (textual | ⟨verdict, listed, same⟩)
    · simp at textual
    · obtain ⟨other, _, rfl⟩ := List.mem_map.mp listed
      injection same with sameName _ sameAnswer
      injection sameAnswer with sameAnswer
      rw [← sameAnswer, Predicate.name_injective sameName]
  · rintro rfl
    exact Or.inr ⟨_, List.mem_map_of_mem predicate.mem_all, rfl⟩

/-- An inspection of what an expression stands for includes a bit of a mask
exactly if one of the terms, read on its own, has such a bit. In a report the
answer to a predicate is what the predicate says about the terms. -/
theorem answers_have_source {declaration : Declaration} {text : String} {value : Mask}
    (read : Expression.mask declaration text = .ok value) :
    (∀ query,
        (ofDeclaration declaration value).includes query = true ↔
          ∃ term ∈ terms text, ∃ bits,
            Expression.mask declaration term = .ok bits ∧ bits &&& query ≠ 0) ∧
      ∀ (predicate : Predicate) (answer : Bool),
        ⟨predicate.name, predicate.name, .truth answer⟩ ∈
            Report.entries ⟨declaration, ofDeclaration declaration value⟩ ↔
          (answer = true ↔ predicate.HoldsOf (terms text)) := by
  constructor
  · intro query
    rw [includes, mask_ofDeclaration, Mask.meets, bne_iff_ne, meets_iff_exists_term read]
    constructor
    · rintro ⟨term, member, bits, denotes, shared⟩
      exact ⟨term, member, bits, (mask_of_mem_terms_eq_ok_iff member).mpr denotes, shared⟩
    · rintro ⟨term, member, bits, termRead, shared⟩
      exact ⟨term, member, bits, (mask_of_mem_terms_eq_ok_iff member).mp termRead, shared⟩
  · intro predicate answer
    rw [mem_entries_iff, Bool.eq_iff_iff, satisfies_iff_holdsOf read]

theorem answers_have_source_interface :
    Expression.mask .field "0x200|private,volatile" = .ok 0x242 ∧
      (ofDeclaration .field 0x242).includes 0x440 = true ∧
      ⟨"is_interface", "is_interface", .truth true⟩ ∈
        Report.entries ⟨.field, ofDeclaration .field 0x242⟩ ∧
      ⟨"is_not_static", "is_not_static", .truth true⟩ ∈
        Report.entries ⟨.field, ofDeclaration .field 0x242⟩ := by
  have read : Expression.mask .field "0x200|private,volatile" = .ok 0x242 := rfl
  have cut : terms "0x200|private,volatile" = ["0x200", "private", "volatile"] := rfl
  obtain ⟨includesIff, entryIff⟩ := answers_have_source read
  rw [cut] at includesIff entryIff
  have interfaceSet : Predicate.isInterface.HoldsOf ["0x200", "private", "volatile"] := by decide
  have staticUnset : Predicate.isNotStatic.HoldsOf ["0x200", "private", "volatile"] := by decide
  exact ⟨read, (includesIff 0x440).mpr ⟨"volatile", by decide, 0x40, rfl, by decide⟩,
    (entryIff .isInterface true).mpr (iff_of_true rfl interfaceSet),
    (entryIff .isNotStatic true).mpr (iff_of_true rfl staticUnset)⟩

end AccessMask.Inspection
