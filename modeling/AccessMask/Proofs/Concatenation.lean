import AccessMask.Proofs.ExpressionGrammar

/-!
# Expressions one behind the other

Two expressions with a separator between them are read one after the other. The
readings of lists of terms form a monoid, in which the fault of an expression
without terms is neutral, and reading a list is a homomorphism into it. The
journal goes on as far as reading does.
-/

namespace AccessMask.Expression

/-! ## Readings one behind the other -/

/-- What two expressions give together. A faulty term on the left is found
first, and an expression without terms changes nothing. -/
def joined : Except Fault Mask → Except Fault Mask → Except Fault Mask
  | .error .empty, right => right
  | .error fault, _ => .error fault
  | .ok left, .ok right => .ok (left ||| right)
  | .ok left, .error .empty => .ok left
  | .ok _, .error fault => .error fault

theorem empty_joined (reading : Except Fault Mask) : joined (.error .empty) reading = reading :=
  rfl

theorem joined_empty (reading : Except Fault Mask) : joined reading (.error .empty) = reading := by
  cases reading with
  | ok value => rfl
  | error fault => cases fault <;> rfl

theorem error_joined {fault : Fault} (notEmpty : fault ≠ .empty) (reading : Except Fault Mask) :
    joined (.error fault) reading = .error fault := by
  cases fault with
  | empty => exact absurd rfl notEmpty
  | unknownModifier | invalidLiteral | unknownDeclaration => rfl

theorem ok_joined_error {fault : Fault} (notEmpty : fault ≠ .empty) (value : Mask) :
    joined (.ok value) (.error fault) = .error fault := by
  cases fault with
  | empty => exact absurd rfl notEmpty
  | unknownModifier | invalidLiteral | unknownDeclaration => rfl

theorem joined_assoc (first second third : Except Fault Mask) :
    joined (joined first second) third = joined first (joined second third) := by
  cases first with
  | error fault =>
      by_cases empty : fault = .empty
      · rw [empty, empty_joined, empty_joined]
      · rw [error_joined empty, error_joined empty, error_joined empty]
  | ok left =>
      cases second with
      | error fault =>
          by_cases empty : fault = .empty
          · rw [empty, joined_empty, empty_joined]
          · rw [ok_joined_error empty, error_joined empty, ok_joined_error empty]
      | ok middle =>
          cases third with
          | error fault =>
              by_cases empty : fault = .empty
              · rw [empty, joined_empty, joined_empty]
              · rw [ok_joined_error empty]
                exact (ok_joined_error empty _).trans (ok_joined_error empty left).symm
          | ok right => exact congrArg Except.ok (BitVec.or_assoc left middle right)

/-! ## Lists of terms -/

theorem termMask_ne_empty (declaration : Declaration) (term : String) :
    termMask declaration term ≠ .error .empty := by
  intro refused
  exact termFault_ne_empty declaration term (termMask_error refused).symm

/-- A list of terms is read one term after the other. -/
theorem unionMask_cons (declaration : Declaration) (term : String) (rest : List String) :
    unionMask declaration (term :: rest) =
      joined (termMask declaration term) (unionMask declaration rest) := by
  rw [unionMask_of_ne_nil (List.cons_ne_nil term rest)]
  cases reading : termMask declaration term with
  | error fault =>
      have notEmpty : fault ≠ .empty := by
        intro empty
        rw [empty] at reading
        exact termMask_ne_empty declaration term reading
      rw [termMasks_cons_error reading, error_joined notEmpty]
      rfl
  | ok value =>
      rw [termMasks_cons_ok reading]
      by_cases last : rest = []
      · rw [last, unionMask, joined_empty]
        exact congrArg Except.ok BitVec.or_zero
      · rw [unionMask_of_ne_nil last]
        cases others : termMasks declaration rest with
        | ok masks => rfl
        | error fault =>
            obtain ⟨_, bad, _, _, _, _, rfl⟩ := termMasks_eq_error_iff.mp others
            exact (ok_joined_error (termFault_ne_empty declaration bad) value).symm

theorem unionMask_append (declaration : Declaration) (left right : List String) :
    unionMask declaration (left ++ right) =
      joined (unionMask declaration left) (unionMask declaration right) := by
  induction left with
  | nil => rfl
  | cons term rest inductionHypothesis =>
      rw [List.cons_append, unionMask_cons, unionMask_cons, inductionHypothesis, joined_assoc]

/-! ## The journal -/

/-- The records of single terms in the journal of an expression. -/
def traces (declaration : Declaration) (text : String) : List Record :=
  (journal declaration text).filter (·.level = .trace)

theorem level_of_mem_termRecords {declaration : Declaration} {terms : List String}
    {entry : Record} (member : entry ∈ termRecords declaration terms) :
    entry.level = .trace := by
  induction terms with
  | nil => simp [termRecords] at member
  | cons term rest inductionHypothesis =>
      unfold termRecords at member
      split at member
      case h_1 =>
        rcases List.mem_cons.mp member with same | inRest
        · rw [same]
          rfl
        · exact inductionHypothesis inRest
      case h_2 => simp at member

theorem traces_eq (declaration : Declaration) (text : String) :
    traces declaration text = termRecords declaration (terms text) := by
  have termsOnly :
      (termRecords declaration (terms text)).filter (·.level = .trace) =
        termRecords declaration (terms text) := by
    rw [List.filter_eq_self]
    intro entry member
    exact decide_eq_true (level_of_mem_termRecords member)
  rw [traces, journal, List.filter_append, termsOnly]
  cases mask declaration text <;> simp [outcomeRecord]

/-- The records that follow a reading: none if a faulty term ended it. -/
def continued : Except Fault Mask → List Record → List Record
  | .ok _, records => records
  | .error .empty, records => records
  | .error _, _ => []

theorem continued_joined (first second : Except Fault Mask) (records : List Record) :
    continued (joined first second) records = continued first (continued second records) := by
  cases first with
  | error fault => cases fault <;> rfl
  | ok left =>
      cases second with
      | error fault => cases fault <;> rfl
      | ok right => rfl

theorem termRecords_append (declaration : Declaration) (left right : List String) :
    termRecords declaration (left ++ right) =
      termRecords declaration left ++
        continued (unionMask declaration left) (termRecords declaration right) := by
  induction left with
  | nil => rfl
  | cons term rest inductionHypothesis =>
      rw [unionMask_cons, continued_joined, List.cons_append, termRecords, termRecords]
      cases reading : termMask declaration term with
      | ok value =>
          rw [inductionHypothesis]
          rfl
      | error fault =>
          cases fault with
          | empty => exact absurd reading (termMask_ne_empty declaration term)
          | unknownModifier | invalidLiteral | unknownDeclaration => rfl

/-! ## Texts -/

/-- Reading is a homomorphism for putting texts together at a separator. The
fault of a text without terms is the neutral reading, and the records of the
terms behind each other are those of both texts, unless a faulty term of the
left one ends them. -/
theorem reading_append (declaration : Declaration) (left right : String) {separator : Char}
    (separates : isSeparator separator = true) :
    mask declaration (left ++ String.singleton separator ++ right) =
        joined (mask declaration left) (mask declaration right) ∧
      traces declaration (left ++ String.singleton separator ++ right) =
        traces declaration left ++
          continued (mask declaration left) (traces declaration right) ∧
      ∀ reading, joined (.error .empty) reading = reading ∧
        joined reading (.error .empty) = reading := by
  refine ⟨?_, ?_, ?_⟩
  · rw [mask, terms_append separates, unionMask_append]
    rfl
  · rw [traces_eq, traces_eq, traces_eq, terms_append separates, termRecords_append]
    rfl
  · intro reading
    exact ⟨empty_joined reading, joined_empty reading⟩

theorem reading_append_wide_space :
    isSeparator '\u3000' = true ∧
      mask .method "private,\u3000x10" = .error (.unknownModifier "x10" .method) ∧
      mask .method "private,\u3000|0x10" = .ok 0x12 ∧
      traces .method "private,\u3000x10" = [termRecord "private" Mask.accPrivate] := by
  have separates : isSeparator '\u3000' = true := by decide
  have faulty := reading_append .method "private," "x10" separates
  have sound := reading_append .method "private," "|0x10" separates
  have leftMask : mask .method "private," = .ok Mask.accPrivate := rfl
  have leftTraces : traces .method "private," = [termRecord "private" Mask.accPrivate] := rfl
  have faultyMask : mask .method "x10" = .error (.unknownModifier "x10" .method) := rfl
  have faultyTraces : traces .method "x10" = [] := rfl
  have soundMask : mask .method "|0x10" = .ok 0x10 := rfl
  rw [leftMask, faultyMask, leftTraces, faultyTraces] at faulty
  rw [leftMask, soundMask] at sound
  exact ⟨separates, faulty.1, sound.1, faulty.2.1⟩

end AccessMask.Expression
