import AccessMask.Proofs.ExpressionGrammar

/-!
# One expression, several vocabularies

The kind of declaration decides which names an expression may use. It does not
decide what a term stands for, so an expression that two kinds accept stands for
one mask. A kind that refuses what another accepts does so at the first name
that only the other one has.
-/

namespace AccessMask.Expression

/-- True of the modifier names of a kind of declaration. -/
def IsName (declaration : Declaration) (term : String) : Prop :=
  ∃ entry ∈ declaration.modifiers.entries, entry.name = term

instance (declaration : Declaration) (term : String) : Decidable (IsName declaration term) :=
  inferInstanceAs (Decidable (∃ entry ∈ declaration.modifiers.entries, entry.name = term))

variable {known other : Declaration}

/-! ## Terms -/

theorem startsWithDigit_of_isName {term : String} (isName : IsName known term) :
    startsWithDigit term = false := by
  obtain ⟨entry, member, rfl⟩ := isName
  exact startsWithDigit_name known entry member

theorem termFault_of_isName {term : String} (isName : IsName known term) :
    termFault other term = .unknownModifier term other := by
  rw [termFault, startsWithDigit_of_isName isName]
  rfl

/-- A term that stands for a mask stands for the same one wherever it is known. -/
theorem termDenotes_iff {term : String} {value : Mask} (denotes : TermDenotes known term value)
    {otherValue : Mask} :
    TermDenotes other term otherValue ↔
      otherValue = value ∧ (IsName known term → IsName other term) := by
  cases denotes with
  | modifier member =>
      have isName : IsName known term := ⟨_, member, rfl⟩
      constructor
      · intro otherDenotes
        cases otherDenotes with
        | modifier otherMember =>
            refine ⟨?_, fun _ => ⟨_, otherMember, rfl⟩⟩
            exact Declaration.bit_eq_of_name_eq other known _ otherMember _ member rfl
        | literal digit _ =>
            rw [startsWithDigit_of_isName isName] at digit
            exact absurd digit Bool.false_ne_true
      · intro shared
        rcases shared with ⟨rfl, otherKnows⟩
        obtain ⟨⟨name, bit⟩, otherMember, rfl⟩ := otherKnows isName
        have sameBit : bit = otherValue :=
          Declaration.bit_eq_of_name_eq other known _ otherMember _ member rfl
        rw [← sameBit]
        exact TermDenotes.modifier otherMember
  | literal digit denotes =>
      have notName : ∀ declaration, ¬ IsName declaration term := by
        intro declaration isName
        rw [startsWithDigit_of_isName isName] at digit
        exact Bool.false_ne_true digit
      constructor
      · intro otherDenotes
        refine ⟨?_, fun isName => absurd isName (notName known)⟩
        cases otherDenotes with
        | modifier otherMember => exact absurd ⟨_, otherMember, rfl⟩ (notName other)
        | literal _ otherDenotes =>
            have read := Literal.read_eq_ok_iff.mpr denotes
            rw [Literal.read_eq_ok_iff.mpr otherDenotes, Except.ok.injEq] at read
            exact read
      · intro shared
        rcases shared with ⟨rfl, _⟩
        exact TermDenotes.literal digit denotes

theorem exists_termDenotes_iff {term : String} (denotes : ∃ value, TermDenotes known term value) :
    (∃ value, TermDenotes other term value) ↔ (IsName known term → IsName other term) := by
  rcases denotes with ⟨value, denotes⟩
  simp only [termDenotes_iff denotes, exists_eq_left]

/-! ## Lists of terms -/

theorem termMasks_eq_ok_iff_of_known {terms : List String} {masks others : List Mask}
    (read : termMasks known terms = .ok masks) :
    termMasks other terms = .ok others ↔
      others = masks ∧ ∀ term ∈ terms, IsName known term → IsName other term := by
  rw [termMasks_eq_ok_iff] at read ⊢
  induction read generalizing others with
  | nil => simp
  | cons denotes _ inductionHypothesis =>
      rw [List.forall₂_cons_left_iff]
      simp only [termDenotes_iff denotes, inductionHypothesis, List.forall_mem_cons]
      constructor
      · rintro ⟨_, _, ⟨rfl, headShared⟩, ⟨rfl, restShared⟩, rfl⟩
        exact ⟨rfl, headShared, restShared⟩
      · rintro ⟨rfl, headShared, restShared⟩
        exact ⟨_, _, ⟨rfl, headShared⟩, ⟨rfl, restShared⟩, rfl⟩

theorem termMasks_eq_error_iff_of_known {terms : List String} {fault : Fault}
    (denote : ∀ term ∈ terms, ∃ value, TermDenotes known term value) :
    termMasks other terms = .error fault ↔
      ∃ before name after,
        terms = before ++ name :: after ∧
          (∀ term ∈ before, IsName known term → IsName other term) ∧
          (IsName known name ∧ ¬ IsName other name) ∧
          fault = .unknownModifier name other := by
  rw [termMasks_eq_error_iff]
  constructor
  · intro firstBad
    rcases firstBad with ⟨before, bad, after, rfl, beforeDenote, nothing, rfl⟩
    have badDenotes := denote bad (by simp)
    have onlyKnown : IsName known bad ∧ ¬ IsName other bad := by
      rw [← Classical.not_imp, ← exists_termDenotes_iff badDenotes, not_exists]
      exact nothing
    refine ⟨before, bad, after, rfl, ?_, onlyKnown, termFault_of_isName onlyKnown.1⟩
    intro term member
    have termDenotes := denote term (List.mem_append_left _ member)
    exact (exists_termDenotes_iff termDenotes).mp (beforeDenote term member)
  · intro firstForeign
    rcases firstForeign with ⟨before, name, after, rfl, beforeShared, onlyKnown, rfl⟩
    have nameDenotes := denote name (by simp)
    refine ⟨before, name, after, rfl, ?_, ?_, (termFault_of_isName onlyKnown.1).symm⟩
    · intro term member
      have termDenotes := denote term (List.mem_append_left _ member)
      exact (exists_termDenotes_iff termDenotes).mpr (beforeShared term member)
    · rw [← not_exists, exists_termDenotes_iff nameDenotes, Classical.not_imp]
      exact onlyKnown

/-! ## Expressions -/

theorem exists_termDenotes_of_mem {terms : List String} {masks : List Mask}
    (denote : List.Forall₂ (TermDenotes known) terms masks) :
    ∀ term ∈ terms, ∃ value, TermDenotes known term value := by
  induction denote with
  | nil => simp
  | cons denotes _ inductionHypothesis =>
      exact List.forall_mem_cons.mpr ⟨⟨_, denotes⟩, inductionHypothesis⟩

/-- What one kind of declaration makes of an expression that another accepts:
the same mask if it has all the names in it, and otherwise the fault of the
first name that it lacks. -/
theorem mask_of_other_kind (other : Declaration) {text : String} {value : Mask}
    (read : mask known text = .ok value) :
    (∀ otherValue, mask other text = .ok otherValue ↔
        otherValue = value ∧ ∀ term ∈ terms text, IsName known term → IsName other term) ∧
      ∀ fault, mask other text = .error fault ↔
        ∃ before name after,
          terms text = before ++ name :: after ∧
            (∀ term ∈ before, IsName known term → IsName other term) ∧
            (IsName known name ∧ ¬ IsName other name) ∧
            fault = .unknownModifier name other := by
  obtain ⟨someTerm, masks, denote, rfl⟩ := mask_eq_ok_iff.mp read
  have masksRead := termMasks_eq_ok_iff.mpr denote
  constructor
  · intro otherValue
    rw [mask, unionMask_of_ne_nil someTerm, map_eq_ok_iff]
    simp only [termMasks_eq_ok_iff_of_known masksRead]
    constructor
    · rintro ⟨_, ⟨rfl, shared⟩, rfl⟩
      exact ⟨rfl, shared⟩
    · rintro ⟨rfl, shared⟩
      exact ⟨masks, ⟨rfl, shared⟩, rfl⟩
  · intro fault
    rw [mask, unionMask_of_ne_nil someTerm, map_eq_error_iff]
    exact termMasks_eq_error_iff_of_known (exists_termDenotes_of_mem denote)

theorem mask_of_other_kind_super :
    mask .type "0x40|final super, abstract" = .ok 0x470 ∧
      mask .method "0x40|final super, abstract" = .error (.unknownModifier "super" .method) ∧
      mask .type "0x40 abstract" = .ok 0x440 ∧
      mask .method "0x40 abstract" = .ok 0x440 := by
  have readNames : mask .type "0x40|final super, abstract" = .ok 0x470 := rfl
  have readShared : mask .type "0x40 abstract" = .ok 0x440 := rfl
  have refused := (mask_of_other_kind .method readNames).2 (.unknownModifier "super" .method)
  have accepted := (mask_of_other_kind .method readShared).1 0x440
  have firstForeign :
      terms "0x40|final super, abstract" = ["0x40", "final"] ++ "super" :: ["abstract"] := rfl
  have beforeShared :
      ∀ term ∈ ["0x40", "final"], IsName .type term → IsName .method term := by decide
  have onlyKnown : IsName .type "super" ∧ ¬ IsName .method "super" := by decide
  have allShared :
      ∀ term ∈ terms "0x40 abstract", IsName .type term → IsName .method term := by decide
  exact ⟨readNames, refused.mpr ⟨_, _, _, firstForeign, beforeShared, onlyKnown, rfl⟩,
    readShared, accepted.mpr ⟨rfl, allShared⟩⟩

end AccessMask.Expression
