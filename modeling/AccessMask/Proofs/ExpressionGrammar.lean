import AccessMask.Proofs.Layout
import AccessMask.Proofs.LiteralGrammar
import AccessMask.Proofs.VocabularyLaws

/-!
# The grammar of expressions

An expression stands for a mask if each term of its layout stands for one, and
then for their union. The grammar is written without the reader. Reading gives
the mask of the grammar, and otherwise the fault of the first term that stands
for nothing.
-/

namespace AccessMask.Expression

/-! ## Terms -/

/-- What a term stands for: a modifier for its bit, a literal for its number. -/
inductive TermDenotes (declaration : Declaration) : String → Mask → Prop
  | modifier {name : String} {bit : Mask} :
      ⟨name, bit⟩ ∈ declaration.modifiers.entries →
      TermDenotes declaration name bit
  | literal {term : String} {mask : Mask} :
      startsWithDigit term = true →
      Literal.Denotes term.toList mask.toNat →
      TermDenotes declaration term mask

/-- The fault of a term that stands for nothing. -/
def termFault (declaration : Declaration) (term : String) : Fault :=
  if startsWithDigit term then .invalidLiteral term else .unknownModifier term declaration

/-- No modifier name looks like a literal. -/
theorem startsWithDigit_name (declaration : Declaration) :
    ∀ entry ∈ declaration.modifiers.entries, startsWithDigit entry.name = false := by
  cases declaration <;> decide

theorem termMask_eq_ok_iff {declaration : Declaration} {term : String} {mask : Mask} :
    termMask declaration term = .ok mask ↔ TermDenotes declaration term mask := by
  unfold termMask
  cases digit : startsWithDigit term with
  | true =>
      rw [if_pos rfl, Literal.read_eq_ok_iff]
      constructor
      · exact TermDenotes.literal digit
      · intro denotes
        cases denotes with
        | modifier member =>
            have noDigit := startsWithDigit_name declaration _ member
            simp [digit] at noDigit
        | literal _ denotes => exact denotes
  | false =>
      rw [if_neg Bool.false_ne_true]
      have found :
          declaration.modifiers.bit? term = some mask ↔ TermDenotes declaration term mask := by
        rw [Vocabulary.bit?_eq_some_iff]
        constructor
        · exact TermDenotes.modifier
        · intro denotes
          cases denotes with
          | modifier member => exact member
          | literal digitAgain _ => simp [digit] at digitAgain
      rw [← found]
      cases declaration.modifiers.bit? term <;> simp

theorem termMask_error {declaration : Declaration} {term : String} {fault : Fault}
    (refused : termMask declaration term = .error fault) :
    fault = termFault declaration term := by
  unfold termMask at refused
  unfold termFault
  split at refused
  case isTrue digit =>
    rw [if_pos digit]
    exact (Literal.read_eq_error_iff.mp refused).1
  case isFalse noDigit =>
    rw [if_neg noDigit]
    split at refused
    case h_1 => simp at refused
    case h_2 => simpa using refused.symm

theorem termMask_eq_error_iff {declaration : Declaration} {term : String} {fault : Fault} :
    termMask declaration term = .error fault ↔
      (∀ mask, ¬ TermDenotes declaration term mask) ∧ fault = termFault declaration term := by
  constructor
  · intro refused
    refine ⟨?_, termMask_error refused⟩
    intro mask denotes
    rw [termMask_eq_ok_iff.mpr denotes] at refused
    simp at refused
  · intro meaningless
    rcases meaningless with ⟨nothing, rfl⟩
    cases reading : termMask declaration term with
    | ok mask => exact absurd (termMask_eq_ok_iff.mp reading) (nothing mask)
    | error fault => rw [termMask_error reading]

/-! ## Lists of terms -/

section

variable {Read Result : Type} {convert : Read → Result} {reading : Except Fault Read}

theorem map_eq_ok_iff {result : Result} :
    reading.map convert = .ok result ↔ ∃ value, reading = .ok value ∧ convert value = result := by
  cases reading <;> simp [Except.map]

theorem map_eq_error_iff {fault : Fault} :
    reading.map convert = .error fault ↔ reading = .error fault := by
  cases reading <;> simp [Except.map]

end

theorem termMasks_cons_ok {declaration : Declaration} {term : String} {mask : Mask}
    (read : termMask declaration term = .ok mask) (rest : List String) :
    termMasks declaration (term :: rest) = (termMasks declaration rest).map (mask :: ·) := by
  rw [termMasks, read]
  cases termMasks declaration rest <;> rfl

theorem termMasks_cons_error {declaration : Declaration} {term : String} {fault : Fault}
    (refused : termMask declaration term = .error fault) (rest : List String) :
    termMasks declaration (term :: rest) = .error fault := by
  rw [termMasks, refused]
  rfl

theorem termMasks_eq_ok_iff {declaration : Declaration} {terms : List String}
    {masks : List Mask} :
    termMasks declaration terms = .ok masks ↔
      List.Forall₂ (TermDenotes declaration) terms masks := by
  induction terms generalizing masks with
  | nil => simp [termMasks, eq_comm]
  | cons term rest inductionHypothesis =>
      rw [List.forall₂_cons_left_iff]
      constructor
      · intro read
        cases reading : termMask declaration term with
        | error fault =>
            rw [termMasks_cons_error reading] at read
            simp at read
        | ok mask =>
            rw [termMasks_cons_ok reading, map_eq_ok_iff] at read
            rcases read with ⟨others, othersRead, rfl⟩
            exact ⟨mask, others, termMask_eq_ok_iff.mp reading,
              inductionHypothesis.mp othersRead, rfl⟩
      · intro paired
        rcases paired with ⟨mask, others, denotes, othersDenote, rfl⟩
        rw [termMasks_cons_ok (termMask_eq_ok_iff.mpr denotes),
          inductionHypothesis.mpr othersDenote]
        rfl

/-- The list is read up to its first term that stands for nothing. -/
theorem termMasks_eq_error_iff {declaration : Declaration} {terms : List String}
    {fault : Fault} :
    termMasks declaration terms = .error fault ↔
      ∃ before bad after,
        terms = before ++ bad :: after ∧
          (∀ term ∈ before, ∃ mask, TermDenotes declaration term mask) ∧
          (∀ mask, ¬ TermDenotes declaration bad mask) ∧
          fault = termFault declaration bad := by
  induction terms with
  | nil => simp [termMasks]
  | cons term rest inductionHypothesis =>
      constructor
      · intro refused
        cases reading : termMask declaration term with
        | error cause =>
            rw [termMasks_cons_error reading, Except.error.injEq] at refused
            subst refused
            obtain ⟨nothing, sameFault⟩ := termMask_eq_error_iff.mp reading
            exact ⟨[], term, rest, rfl, by simp, nothing, sameFault⟩
        | ok mask =>
            rw [termMasks_cons_ok reading, map_eq_error_iff] at refused
            obtain ⟨before, bad, after, rfl, beforeDenote, nothing, sameFault⟩ :=
              inductionHypothesis.mp refused
            have longerDenote :
                ∀ other ∈ term :: before, ∃ mask, TermDenotes declaration other mask :=
              List.forall_mem_cons.mpr ⟨⟨mask, termMask_eq_ok_iff.mp reading⟩, beforeDenote⟩
            exact ⟨term :: before, bad, after, rfl, longerDenote, nothing, sameFault⟩
      · intro firstBad
        rcases firstBad with ⟨before, bad, after, shape, beforeDenote, nothing, sameFault⟩
        cases before with
        | nil =>
            injection shape with sameTerm sameRest
            subst sameTerm
            exact termMasks_cons_error (termMask_eq_error_iff.mpr ⟨nothing, sameFault⟩) rest
        | cons first others =>
            injection shape with sameTerm sameRest
            subst sameTerm
            obtain ⟨⟨mask, denotes⟩, othersDenote⟩ := List.forall_mem_cons.mp beforeDenote
            have restRefused : termMasks declaration rest = .error fault :=
              inductionHypothesis.mpr
                ⟨others, bad, after, sameRest, othersDenote, nothing, sameFault⟩
            rw [termMasks_cons_ok (termMask_eq_ok_iff.mpr denotes), map_eq_error_iff]
            exact restRefused

/-! ## Expressions -/

theorem terms_eq_nil_iff {text : String} :
    terms text = [] ↔ ∀ c ∈ text.toList, isSeparator c = true := by
  obtain ⟨layout, laid⟩ := exists_layout text.toList
  rw [terms_of_layout laid]
  constructor
  · intro noTerms
    have noPieces : layout.pieces = [] := by simpa [Layout.terms] using noTerms
    have onlyLead : text.toList = layout.lead := by simp [← laid, Layout.text, noPieces]
    rw [onlyLead]
    exact layout.blank
  · intro separators
    have noFields : solidFields (text.toList ++ []) = [] :=
      solidFields_blank_append separators []
    rw [← terms_of_layout laid, terms_eq, ← List.append_nil text.toList, noFields]
    rfl

theorem unionMask_of_ne_nil {terms : List String} (nonempty : terms ≠ [])
    (declaration : Declaration) :
    unionMask declaration terms = (termMasks declaration terms).map Mask.union := by
  obtain ⟨first, others, rfl⟩ := List.exists_cons_of_ne_nil nonempty
  rfl

theorem termFault_ne_empty (declaration : Declaration) (term : String) :
    termFault declaration term ≠ .empty := by
  unfold termFault
  split <;> simp

theorem mask_eq_ok_iff {declaration : Declaration} {text : String} {value : Mask} :
    mask declaration text = .ok value ↔
      terms text ≠ [] ∧
        ∃ masks, List.Forall₂ (TermDenotes declaration) (terms text) masks ∧
          Mask.union masks = value := by
  rw [mask]
  by_cases noTerms : terms text = []
  · rw [noTerms]
    simp [unionMask]
  · rw [unionMask_of_ne_nil noTerms, map_eq_ok_iff]
    simp only [termMasks_eq_ok_iff, noTerms, ne_eq, not_false_eq_true, true_and]

theorem mask_eq_error_iff {declaration : Declaration} {text : String} {fault : Fault} :
    mask declaration text = .error fault ↔
      (terms text = [] ∧ fault = .empty) ∨
        termMasks declaration (terms text) = .error fault := by
  rw [mask]
  by_cases noTerms : terms text = []
  · rw [noTerms]
    simp [unionMask, termMasks, eq_comm]
  · rw [unionMask_of_ne_nil noTerms, map_eq_error_iff]
    simp [noTerms]

/-- The layouts of a text whose terms all stand for masks are the only reason
for reading to succeed, the absence of terms is the only reason for the empty
fault, and any other fault is that of the first term that stands for nothing. -/
theorem mask_exact (declaration : Declaration) (text : String) :
    (∃! layout : Layout, layout.text = text.toList) ∧
      (∀ value, mask declaration text = .ok value ↔
        ∃ (layout : Layout) (masks : List Mask),
          layout.text = text.toList ∧
            layout.pieces ≠ [] ∧
            List.Forall₂ (TermDenotes declaration) layout.terms masks ∧
            Mask.union masks = value) ∧
      (mask declaration text = .error .empty ↔ ∀ c ∈ text.toList, isSeparator c = true) ∧
      ∀ fault, (mask declaration text = .error fault ∧ fault ≠ .empty) ↔
        ∃ (layout : Layout) (before : List String) (bad : String) (after : List String),
          layout.text = text.toList ∧
            layout.terms = before ++ bad :: after ∧
            (∀ term ∈ before, ∃ value, TermDenotes declaration term value) ∧
            (∀ value, ¬ TermDenotes declaration bad value) ∧
            fault = termFault declaration bad := by
  obtain ⟨layout, laid⟩ := exists_layout text.toList
  have sameTerms : terms text = layout.terms := terms_of_layout laid
  have onlyLayout : ∀ other : Layout, other.text = text.toList → other = layout :=
    fun other otherLaid => layout_unique (otherLaid.trans laid.symm)
  have noPieces_iff : layout.terms = [] ↔ layout.pieces = [] := by simp [Layout.terms]
  refine ⟨⟨layout, laid, onlyLayout⟩, ?_, ?_, ?_⟩
  · intro value
    rw [mask_eq_ok_iff, sameTerms]
    constructor
    · intro read
      rcases read with ⟨nonempty, masks, denote, sameValue⟩
      exact ⟨layout, masks, laid, mt noPieces_iff.mpr nonempty, denote, sameValue⟩
    · intro denoted
      rcases denoted with ⟨other, masks, otherLaid, nonempty, denote, sameValue⟩
      obtain rfl := onlyLayout other otherLaid
      exact ⟨mt noPieces_iff.mp nonempty, masks, denote, sameValue⟩
  · rw [mask_eq_error_iff, ← terms_eq_nil_iff]
    constructor
    · intro failed
      rcases failed with ⟨noTerms, _⟩ | refused
      · exact noTerms
      · obtain ⟨_, bad, _, _, _, _, sameFault⟩ := termMasks_eq_error_iff.mp refused
        exact absurd sameFault.symm (termFault_ne_empty declaration bad)
    · intro noTerms
      exact Or.inl ⟨noTerms, rfl⟩
  · intro fault
    rw [mask_eq_error_iff, termMasks_eq_error_iff, sameTerms]
    constructor
    · intro failed
      rcases failed with ⟨⟨_, empty⟩ | firstBad, notEmpty⟩
      · exact absurd empty notEmpty
      · rcases firstBad with ⟨before, bad, after, firstBad⟩
        exact ⟨layout, before, bad, after, laid, firstBad⟩
    · intro laidOut
      rcases laidOut with ⟨other, before, bad, after, otherLaid, shape, beforeDenote, nothing,
        sameFault⟩
      obtain rfl := onlyLayout other otherLaid
      have notEmpty : fault ≠ .empty := by
        rw [sameFault]
        exact termFault_ne_empty declaration bad
      exact ⟨Or.inr ⟨before, bad, after, shape, beforeDenote, nothing, sameFault⟩, notEmpty⟩

end AccessMask.Expression
