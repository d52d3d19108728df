import AccessMask.Proofs.FilterLaws
import AccessMask.Proofs.NumeralTerms
import AccessMask.Proofs.OutputReading

/-!
# What a journal tells

The journal of an expression is the history of its reading: a record for each
term in order, up to the first one that stands for nothing, and one more for the
whole if there is no such term. The masks that the records show are those of the
terms, so the reading can be repeated from its journal.
-/

namespace AccessMask.Expression

open Text

/-! ## The journal of a success and of a failure -/

theorem journal_of_ok {declaration : Declaration} {text : String} {value : Mask}
    (reading : mask declaration text = .ok value) :
    journal declaration text =
      termRecords declaration (terms text) ++ [outcomeRecord declaration text value] := by
  rw [journal, reading]

theorem journal_of_error {declaration : Declaration} {text : String} {fault : Fault}
    (reading : mask declaration text = .error fault) :
    journal declaration text = termRecords declaration (terms text) := by
  rw [journal, reading, List.append_nil]

theorem mask_and_journal_of_no_terms {declaration : Declaration} {text : String}
    (noTerms : terms text = []) :
    mask declaration text = .error .empty ∧ journal declaration text = [] := by
  have reading : mask declaration text = .error .empty := by
    rw [mask, noTerms]
    rfl
  refine ⟨reading, ?_⟩
  rw [journal_of_error reading, noTerms]
  rfl

/-! ## How far reading gets -/

/-- The terms that are read with what each of them stands for, and the terms
that are left. Reading stops in front of a term that stands for nothing. -/
structure Progress (declaration : Declaration) (terms : List String)
    (read : List (String × Mask)) (left : List String) : Prop where
  whole : terms = read.map (·.1) ++ left
  denote : ∀ entry ∈ read, TermDenotes declaration entry.1 entry.2
  stops : ∀ bad ∈ left.head?, ∀ value, ¬ TermDenotes declaration bad value

theorem exists_progress (declaration : Declaration) (terms : List String) :
    ∃ read left, Progress declaration terms read left := by
  induction terms with
  | nil => exact ⟨[], [], rfl, by simp, by simp⟩
  | cons term rest inductionHypothesis =>
      cases reading : termMask declaration term with
      | error fault =>
          obtain ⟨nothing, _⟩ := termMask_eq_error_iff.mp reading
          exact ⟨[], term :: rest, rfl, by simp, by simpa using nothing⟩
      | ok value =>
          obtain ⟨read, left, progress⟩ := inductionHypothesis
          have longerDenote :
              ∀ entry ∈ (term, value) :: read, TermDenotes declaration entry.1 entry.2 :=
            List.forall_mem_cons.mpr ⟨termMask_eq_ok_iff.mp reading, progress.denote⟩
          exact ⟨(term, value) :: read, left, congrArg (term :: ·) progress.whole, longerDenote,
            progress.stops⟩

namespace Progress

variable {declaration : Declaration} {terms left : List String} {read : List (String × Mask)}

theorem rest {term : String} {value : Mask} {others : List String}
    (progress : Progress declaration (term :: others) ((term, value) :: read) left) :
    Progress declaration others read left where
  whole := (List.cons.inj progress.whole).2
  denote := (List.forall_mem_cons.mp progress.denote).2
  stops := progress.stops

/-- There is a record for each term that is read, in order. -/
theorem termRecords_eq (progress : Progress declaration terms read left) :
    termRecords declaration terms = read.map fun entry => termRecord entry.1 entry.2 := by
  induction read generalizing terms with
  | nil =>
      obtain rfl : terms = left := progress.whole
      cases terms with
      | nil => rfl
      | cons bad others =>
          have refused : termMask declaration bad = .error (termFault declaration bad) :=
            termMask_eq_error_iff.mpr ⟨progress.stops bad rfl, rfl⟩
          rw [termRecords, refused]
          rfl
  | cons entry others inductionHypothesis =>
      obtain ⟨term, value⟩ := entry
      obtain ⟨_, rfl⟩ : ∃ following, terms = term :: following := ⟨_, progress.whole⟩
      have accepted : termMask declaration term = .ok value :=
        termMask_eq_ok_iff.mpr (progress.denote _ List.mem_cons_self)
      rw [termRecords, accepted, List.map_cons]
      exact congrArg (termRecord term value :: ·) (inductionHypothesis progress.rest)

theorem termMasks_eq_ok (progress : Progress declaration terms read []) :
    termMasks declaration terms = .ok (read.map (·.2)) := by
  rw [termMasks_eq_ok_iff, progress.whole, List.append_nil, List.forall₂_map_left_iff,
    List.forall₂_map_right_iff, List.forall₂_same]
  exact progress.denote

theorem termMasks_eq_error {bad : String} {after : List String}
    (progress : Progress declaration terms read (bad :: after)) :
    termMasks declaration terms = .error (termFault declaration bad) := by
  refine termMasks_eq_error_iff.mpr
    ⟨read.map (·.1), bad, after, progress.whole, ?_, progress.stops bad rfl, rfl⟩
  intro term member
  obtain ⟨entry, inRead, rfl⟩ := List.mem_map.mp member
  exact ⟨entry.2, progress.denote entry inRead⟩

theorem mask_eq_ok {text : String}
    (progress : Progress declaration (Expression.terms text) read []) (someRead : read ≠ []) :
    mask declaration text = .ok (Mask.union (read.map (·.2))) := by
  have someTerm : Expression.terms text ≠ [] := by
    rw [progress.whole, List.append_nil]
    exact mt List.map_eq_nil_iff.mp someRead
  rw [mask, unionMask_of_ne_nil someTerm, progress.termMasks_eq_ok]
  rfl

theorem mask_eq_error {text bad : String} {after : List String}
    (progress : Progress declaration (Expression.terms text) read (bad :: after)) :
    mask declaration text = .error (termFault declaration bad) :=
  mask_eq_error_iff.mpr (Or.inr progress.termMasks_eq_error)

theorem journal_eq_of_finished {text : String}
    (progress : Progress declaration (Expression.terms text) read []) (someRead : read ≠ []) :
    journal declaration text =
      (read.map fun entry => termRecord entry.1 entry.2) ++
        [outcomeRecord declaration text (Mask.union (read.map (·.2)))] := by
  rw [journal_of_ok (progress.mask_eq_ok someRead), progress.termRecords_eq]

theorem journal_eq_of_stopped {text bad : String} {after : List String}
    (progress : Progress declaration (Expression.terms text) read (bad :: after)) :
    journal declaration text = read.map fun entry => termRecord entry.1 entry.2 := by
  rw [journal_of_error progress.mask_eq_error, progress.termRecords_eq]

end Progress

/-! ## What records show -/

/-- The mask that a record shows behind its last space. -/
def shownMask? (entry : Record) : Option Mask :=
  Literal.read? (String.ofList (entry.message.toList.reverse.takeWhile (· ≠ ' ')).reverse)

theorem shownMask?_trace (term : String) (value : Mask) :
    shownMask? ⟨.trace, "term " ++ Quoted.quote term ++ " -> " ++ Numeral.hex value⟩ =
      some value := by
  have noSpace : ' ' ∉ (Numeral.hex value).toList.reverse := by
    rw [List.mem_reverse]
    intro space
    exact absurd (Numeral.Form.hex.mem_characters_of_write value ' ' space) (by decide)
  have characters :
      ("term " ++ Quoted.quote term ++ " -> " ++ Numeral.hex value).toList.reverse =
        (Numeral.hex value).toList.reverse ++
          ' ' :: ("term " ++ Quoted.quote term ++ " ->").toList.reverse := by
    simp
  rw [shownMask?, characters, takeWhile_before noSpace, List.reverse_reverse,
    String.ofList_toList, Literal.read?_eq_some_iff]
  exact Literal.read_eq_ok_iff.mp (Numeral.read_hex value)

end AccessMask.Expression

namespace AccessMask.CommandLine

open Expression Text

/-! ## What an invocation tells -/

theorem journal_of_query {invocation : Invocation} {layout : Format} {value : Mask}
    (isQuery : invocation.action = .query layout) (reading : invocation.mask = .ok value) :
    invocation.journal =
      Expression.journal invocation.declaration invocation.expression ++
        [⟨.debug, invocation.declaration.name ++ " AccessFlagQuery(" ++
          Numeral.paddedHex value ++ ")"⟩] := by
  have record :
      (Inspection.ofDeclaration invocation.declaration value).debugText =
        "AccessFlagQuery(" ++ Numeral.paddedHex value ++ ")" :=
    congrArg (fun mask => "AccessFlagQuery(" ++ Numeral.paddedHex mask ++ ")")
      (Inspection.mask_ofDeclaration invocation.declaration value)
  have message :
      invocation.declaration.name ++ " " ++ ("AccessFlagQuery(" ++ Numeral.paddedHex value ++ ")") =
        invocation.declaration.name ++ " AccessFlagQuery(" ++ Numeral.paddedHex value ++ ")" := by
    apply String.toList_inj.mp
    simp
  rw [Invocation.journal, Invocation.actionJournal, reading, isQuery]
  simp only [Action.records, record, message]

theorem journal_of_other {invocation : Invocation}
    (noQuery : ∀ layout, invocation.action ≠ .query layout) :
    invocation.journal =
      Expression.journal invocation.declaration invocation.expression := by
  rw [Invocation.journal, Invocation.actionJournal]
  cases invocation.mask with
  | error fault => exact List.append_nil _
  | ok value =>
      cases shape : invocation.action with
      | query layout => exact absurd shape (noQuery layout)
      | describe => exact List.append_nil _
      | encode => exact List.append_nil _

theorem journal_of_failure {invocation : Invocation} {fault : Fault}
    (reading : invocation.mask = .error fault) :
    invocation.journal =
      Expression.journal invocation.declaration invocation.expression := by
  rw [Invocation.journal, Invocation.actionJournal, reading, List.append_nil]

theorem exitCode_eq_zero_iff {invocation : Invocation} :
    invocation.outcome.exitCode = 0 ↔
      ∃ value,
        Expression.mask invocation.declaration (" ".intercalate invocation.words) = .ok value := by
  constructor
  · exact Invocation.exists_mask_of_success
  · intro success
    obtain ⟨value, reading⟩ := success
    rw [Invocation.outcome_of_ok reading]

theorem journal_of_other_or_failure {invocation : Invocation}
    (refused : (∀ layout, invocation.action ≠ .query layout) ∨ invocation.outcome.exitCode ≠ 0) :
    invocation.journal =
      Expression.journal invocation.declaration invocation.expression := by
  rcases refused with noQuery | failed
  · exact journal_of_other noQuery
  · cases reading : invocation.mask with
    | error fault => exact journal_of_failure reading
    | ok value => exact absurd (exitCode_eq_zero_iff.mpr ⟨value, reading⟩) failed

/-- The journal of an expression has one record for each term that is read,
which shows the mask of the term. If all terms are read and there is one, a last
record shows the union of these masks, which is what the expression stands for.
If a term is left, or there is none, nothing more is told. Under the highest
threshold a call of the program shows the journal of its words joined by spaces.
A query adds one record if the words stand for a mask, which is when it succeeds.
Nothing else adds any. -/
theorem journal_replays :
    (∀ declaration text, ∃ read left,
      Progress declaration (terms text) read left ∧
        let value := Mask.union (read.map (·.2))
        let traces : List Record :=
          read.map fun entry =>
            ⟨.trace, "term " ++ Quoted.quote entry.1 ++ " -> " ++ Numeral.hex entry.2⟩
        traces.map shownMask? = read.map (some ·.2) ∧
          (left = [] ∧ read ≠ [] ∧ Expression.mask declaration text = .ok value ∧
              Expression.journal declaration text =
                traces ++
                  [⟨.debug, "parsed " ++ declaration.name ++ " flags " ++ Quoted.quote text ++
                    " -> " ++ Numeral.paddedHex value⟩] ∨
            terms text = [] ∧ Expression.mask declaration text = .error .empty ∧
              Expression.journal declaration text = [] ∨
            ∃ bad after,
              left = bad :: after ∧
                Expression.mask declaration text = .error (termFault declaration bad) ∧
                Expression.journal declaration text = traces)) ∧
      ∀ arguments invocation, Invocation.read arguments = .ok invocation →
        let text := " ".intercalate invocation.words
        let reading := Expression.mask invocation.declaration text
        let told := Expression.journal invocation.declaration text
        (invocation.outcome.exitCode = 0 ↔ ∃ value, reading = .ok value) ∧
          ∀ setting, Threshold.ofName? setting = some .trace →
            (∀ layout value, invocation.action = .query layout → reading = .ok value →
              invocation.shown (some setting) =
                told ++
                  [⟨.debug, invocation.declaration.name ++ " AccessFlagQuery(" ++
                    Numeral.paddedHex value ++ ")"⟩]) ∧
              ((∀ layout, invocation.action ≠ .query layout) ∨ invocation.outcome.exitCode ≠ 0 →
                invocation.shown (some setting) = told) := by
  constructor
  · intro declaration text
    obtain ⟨read, left, progress⟩ := exists_progress declaration (terms text)
    refine ⟨read, left, progress, ?_, ?_⟩
    · rw [List.map_map]
      refine List.map_congr_left fun entry _ => ?_
      rw [Function.comp_apply]
      exact shownMask?_trace entry.1 entry.2
    · cases left with
      | cons bad after =>
          exact Or.inr (Or.inr
            ⟨bad, after, rfl, progress.mask_eq_error, progress.journal_eq_of_stopped⟩)
      | nil =>
          by_cases noneRead : read = []
          · have noTerms : terms text = [] := by
              rw [progress.whole, noneRead]
              rfl
            exact Or.inr (Or.inl ⟨noTerms, mask_and_journal_of_no_terms noTerms⟩)
          · exact Or.inl
              ⟨rfl, noneRead, progress.mask_eq_ok noneRead,
                progress.journal_eq_of_finished noneRead⟩
  · intro arguments invocation _ text reading told
    refine ⟨exitCode_eq_zero_iff, ?_⟩
    intro setting named
    rw [Invocation.shown_of_trace invocation named]
    constructor
    · intro layout value isQuery known
      exact journal_of_query isQuery known
    · exact journal_of_other_or_failure

theorem journal_replays_query_and_encode :
    Invocation.read ["query", "-kfield", "0x8", "final"] =
        .ok ⟨.query .text, .field, ["0x8", "final"], by decide⟩ ∧
      Invocation.read ["encode", "native", "x"] =
        .ok ⟨.encode, .method, ["native", "x"], by decide⟩ ∧
      Threshold.ofName? "trace" = some .trace ∧
      Invocation.shown ⟨.query .text, .field, ["0x8", "final"], by decide⟩ (some "trace") =
        [⟨.trace, "term \"0x8\" -> 0x8"⟩, ⟨.trace, "term \"final\" -> 0x10"⟩,
          ⟨.debug, "parsed field flags \"0x8 final\" -> 0x0018"⟩,
          ⟨.debug, "field AccessFlagQuery(0x0018)"⟩] ∧
      Invocation.shown ⟨.encode, .method, ["native", "x"], by decide⟩ (some "trace") =
        [⟨.trace, "term \"native\" -> 0x100"⟩] := by
  have queried :
      Invocation.read ["query", "-kfield", "0x8", "final"] =
        .ok ⟨.query .text, .field, ["0x8", "final"], by decide⟩ := by
    decide
  have encoded :
      Invocation.read ["encode", "native", "x"] =
        .ok ⟨.encode, .method, ["native", "x"], by decide⟩ := by
    decide
  have named : Threshold.ofName? "trace" = some .trace := by decide
  have known : Expression.mask .field (" ".intercalate ["0x8", "final"]) = .ok 0x18 := rfl
  have toldOfQuery :
      Expression.journal .field (" ".intercalate ["0x8", "final"]) =
        [⟨.trace, "term \"0x8\" -> 0x8"⟩, ⟨.trace, "term \"final\" -> 0x10"⟩,
          ⟨.debug, "parsed field flags \"0x8 final\" -> 0x0018"⟩] := by
    decide +kernel
  have toldOfEncode :
      Expression.journal .method (" ".intercalate ["native", "x"]) =
        [⟨.trace, "term \"native\" -> 0x100"⟩] := by
    decide +kernel
  have noQuery : ∀ layout, Action.encode ≠ .query layout := by
    intro layout same
    cases same
  obtain ⟨_, replayed⟩ := journal_replays
  obtain ⟨_, shownOfQuery⟩ := replayed _ _ queried
  obtain ⟨_, shownOfEncode⟩ := replayed _ _ encoded
  have added := (shownOfQuery "trace" named).1 .text 0x18 rfl known
  have nothingAdded := (shownOfEncode "trace" named).2 (Or.inl noQuery)
  rw [toldOfQuery] at added
  rw [toldOfEncode] at nothingAdded
  exact ⟨queried, encoded, named, added, nothingAdded⟩

end AccessMask.CommandLine
