import AccessMask.Proofs.OtherVocabulary

/-!
# Expressions as sets of terms

Neither the order of the terms of an expression nor their repetition matters.
An expression is accepted if it has terms and each of them stands for a mask,
and its bits are those that some term has. So what is left after terms are taken
away is accepted too and has no other bits, and the same set of terms gives the
same mask.
-/

namespace AccessMask.Expression

variable {declaration : Declaration}

/-! ## Lists of terms -/

/-- True of the positions at which some term has its bit set. -/
def SomeTermSets (declaration : Declaration) (terms : List String) (position : Nat) : Prop :=
  ∃ term ∈ terms, ∃ value, TermDenotes declaration term value ∧ value.getLsbD position = true

theorem SomeTermSets.mono {terms others : List String} (included : terms ⊆ others) {position : Nat}
    (isSet : SomeTermSets declaration terms position) :
    SomeTermSets declaration others position := by
  obtain ⟨term, member, value, denotes, bitSet⟩ := isSet
  exact ⟨term, included member, value, denotes, bitSet⟩

theorem termDenotes_unique {term : String} {left right : Mask}
    (leftDenotes : TermDenotes declaration term left)
    (rightDenotes : TermDenotes declaration term right) :
    left = right := by
  have leftRead := termMask_eq_ok_iff.mpr leftDenotes
  rw [termMask_eq_ok_iff.mpr rightDenotes, Except.ok.injEq] at leftRead
  exact leftRead.symm

theorem exists_masks {terms : List String}
    (denote : ∀ term ∈ terms, ∃ value, TermDenotes declaration term value) :
    ∃ masks, List.Forall₂ (TermDenotes declaration) terms masks := by
  induction terms with
  | nil => exact ⟨[], .nil⟩
  | cons term rest inductionHypothesis =>
      obtain ⟨⟨value, denotes⟩, restDenote⟩ := List.forall_mem_cons.mp denote
      obtain ⟨masks, restMasks⟩ := inductionHypothesis restDenote
      exact ⟨value :: masks, .cons denotes restMasks⟩

/-- A union has the bits of its parts, whatever their order. -/
theorem getLsbD_union_iff {terms : List String} {masks : List Mask}
    (denote : List.Forall₂ (TermDenotes declaration) terms masks) (position : Nat) :
    (Mask.union masks).getLsbD position = true ↔ SomeTermSets declaration terms position := by
  induction denote with
  | nil => simp [Mask.union, SomeTermSets]
  | @cons term value rest others denotes _ inductionHypothesis =>
      rw [Mask.union, BitVec.getLsbD_or, Bool.or_eq_true, inductionHypothesis]
      constructor
      · rintro (headSet | restSets)
        · exact ⟨term, List.mem_cons_self, value, denotes, headSet⟩
        · exact restSets.mono (List.subset_cons_self term rest)
      · rintro ⟨other, member, otherValue, otherDenotes, bitSet⟩
        rcases List.mem_cons.mp member with rfl | inRest
        · rw [termDenotes_unique denotes otherDenotes]
          exact Or.inl bitSet
        · exact Or.inr ⟨other, inRest, otherValue, otherDenotes, bitSet⟩

/-! ## Expressions -/

/-- Acceptance asks each term on its own. -/
theorem exists_mask_iff {text : String} :
    (∃ value, mask declaration text = .ok value) ↔
      terms text ≠ [] ∧ ∀ term ∈ terms text, ∃ value, TermDenotes declaration term value := by
  constructor
  · rintro ⟨value, read⟩
    obtain ⟨someTerm, masks, denote, _⟩ := mask_eq_ok_iff.mp read
    exact ⟨someTerm, exists_termDenotes_of_mem denote⟩
  · rintro ⟨someTerm, denote⟩
    obtain ⟨masks, paired⟩ := exists_masks denote
    exact ⟨Mask.union masks, mask_eq_ok_iff.mpr ⟨someTerm, masks, paired, rfl⟩⟩

theorem getLsbD_mask_iff {text : String} {value : Mask}
    (read : mask declaration text = .ok value) (position : Nat) :
    value.getLsbD position = true ↔ SomeTermSets declaration (terms text) position := by
  obtain ⟨_, masks, denote, rfl⟩ := mask_eq_ok_iff.mp read
  exact getLsbD_union_iff denote position

theorem exists_mask_of_subset {left right : String} {leftMask : Mask}
    (read : mask declaration left = .ok leftMask) (someTerm : terms right ≠ [])
    (included : terms right ⊆ terms left) :
    ∃ rightMask,
      mask declaration right = .ok rightMask ∧
        ∀ position, rightMask.getLsbD position = true → leftMask.getLsbD position = true := by
  have leftDenote := (exists_mask_iff.mp ⟨leftMask, read⟩).2
  obtain ⟨rightMask, rightRead⟩ :=
    exists_mask_iff.mpr ⟨someTerm, fun term member => leftDenote term (included member)⟩
  refine ⟨rightMask, rightRead, ?_⟩
  intro position isSet
  rw [getLsbD_mask_iff rightRead] at isSet
  exact (getLsbD_mask_iff read position).mpr (isSet.mono included)

theorem mask_eq_of_subsets {left right : String} {leftMask rightMask : Mask}
    (leftRead : mask declaration left = .ok leftMask)
    (rightRead : mask declaration right = .ok rightMask)
    (leftIncluded : terms left ⊆ terms right) (rightIncluded : terms right ⊆ terms left) :
    rightMask = leftMask := by
  apply BitVec.eq_of_getLsbD_eq
  intro position _
  rw [Bool.eq_iff_iff, getLsbD_mask_iff leftRead, getLsbD_mask_iff rightRead]
  exact ⟨SomeTermSets.mono rightIncluded, SomeTermSets.mono leftIncluded⟩

theorem mask_of_same_terms {left right : String} {value : Mask}
    (read : mask declaration left = .ok value)
    (sameTerms : ∀ term, term ∈ terms left ↔ term ∈ terms right) :
    mask declaration right = .ok value := by
  have rightIncluded : terms right ⊆ terms left := fun term => (sameTerms term).mpr
  have leftIncluded : terms left ⊆ terms right := fun term => (sameTerms term).mp
  have someTerm : terms right ≠ [] := by
    intro noTerm
    rw [noTerm, List.subset_nil] at leftIncluded
    exact (exists_mask_iff.mp ⟨value, read⟩).1 leftIncluded
  obtain ⟨rightMask, rightRead, _⟩ := exists_mask_of_subset read someTerm rightIncluded
  rw [rightRead, mask_eq_of_subsets read rightRead leftIncluded rightIncluded]

/-- Terms taken away from an accepted expression leave an accepted one, unless
none is left, and its mask has no other bits. The same terms in any order, any
number and with anything between them give the same mask, or both expressions
are refused. -/
theorem mask_of_term_set (declaration : Declaration) (left right : String) :
    (∀ leftMask,
        mask declaration left = .ok leftMask →
        terms right ≠ [] →
        (∀ term ∈ terms right, term ∈ terms left) →
        ∃ rightMask,
          mask declaration right = .ok rightMask ∧
            (∀ position, rightMask.getLsbD position = true →
              leftMask.getLsbD position = true) ∧
            ((∀ term ∈ terms left, term ∈ terms right) → rightMask = leftMask)) ∧
      ((∀ term, term ∈ terms left ↔ term ∈ terms right) →
        (∃ value, mask declaration left = .ok value ∧ mask declaration right = .ok value) ∨
          ∃ leftFault rightFault,
            mask declaration left = .error leftFault ∧
              mask declaration right = .error rightFault) := by
  constructor
  · intro leftMask read someTerm included
    obtain ⟨rightMask, rightRead, within⟩ := exists_mask_of_subset read someTerm included
    exact ⟨rightMask, rightRead, within,
      fun leftIncluded => mask_eq_of_subsets read rightRead leftIncluded included⟩
  · intro sameTerms
    cases leftReading : mask declaration left with
    | ok value => exact Or.inl ⟨value, rfl, mask_of_same_terms leftReading sameTerms⟩
    | error leftFault =>
        cases rightReading : mask declaration right with
        | error rightFault => exact Or.inr ⟨leftFault, rightFault, rfl, rfl⟩
        | ok value =>
            have leftRead :=
              mask_of_same_terms rightReading fun term => (sameTerms term).symm
            rw [leftReading] at leftRead
            cases leftRead

theorem mask_of_term_set_shuffled :
    (∃ value,
        mask .field "volatile|0x8,0x8" = .ok value ∧
          ∀ position, value.getLsbD position = true →
            (0x40048 : Mask).getLsbD position = true) ∧
      mask .field "0x40000 0x8\u3000volatile||0x8" = .ok 0x40048 ∧
      ∃ leftFault rightFault,
        mask .field "public native super" = .error leftFault ∧
          mask .field "super,native,public,native" = .error rightFault := by
  have sameFaulty :
      ∀ term,
        term ∈ ["public", "native", "super"] ↔ term ∈ ["super", "native", "public", "native"] := by
    intro term
    simp only [List.mem_cons, List.not_mem_nil, or_false]
    tauto
  have read : mask .field "0x8 volatile 0x40000" = .ok 0x40048 := rfl
  have readTerms : terms "0x8 volatile 0x40000" = ["0x8", "volatile", "0x40000"] := rfl
  have fewerTerms : terms "volatile|0x8,0x8" = ["volatile", "0x8", "0x8"] := rfl
  have shuffledTerms :
      terms "0x40000 0x8\u3000volatile||0x8" = ["0x40000", "0x8", "volatile", "0x8"] :=
    rfl
  have faulty : mask .field "public native super" = .error (.unknownModifier "native" .field) :=
    rfl
  have faultyTerms : terms "public native super" = ["public", "native", "super"] := rfl
  have otherFaultyTerms :
      terms "super,native,public,native" = ["super", "native", "public", "native"] :=
    rfl
  have fewerLaws := (mask_of_term_set .field "0x8 volatile 0x40000" "volatile|0x8,0x8").1
  have shuffledLaws :=
    (mask_of_term_set .field "0x8 volatile 0x40000" "0x40000 0x8\u3000volatile||0x8").1
  have faultyLaws :=
    (mask_of_term_set .field "public native super" "super,native,public,native").2
  rw [readTerms, fewerTerms] at fewerLaws
  rw [readTerms, shuffledTerms] at shuffledLaws
  rw [faultyTerms, otherFaultyTerms, faulty] at faultyLaws
  obtain ⟨part, partRead, within, _⟩ := fewerLaws 0x40048 read (by decide) (by decide)
  obtain ⟨whole, wholeRead, _, same⟩ := shuffledLaws 0x40048 read (by decide) (by decide)
  rw [same (by decide)] at wholeRead
  refine ⟨⟨part, partRead, within⟩, wholeRead, ?_⟩
  rcases faultyLaws sameFaulty with ⟨value, accepted, _⟩ | refused
  · cases accepted
  · obtain ⟨_, rightFault, _, rightRefused⟩ := refused
    exact ⟨_, rightFault, faulty, rightRefused⟩

end AccessMask.Expression
