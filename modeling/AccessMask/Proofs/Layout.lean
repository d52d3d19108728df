import AccessMask.Expression
import Mathlib.Data.Bool.AllAny
import Mathlib.Data.List.Basic

/-!
# The layout of an expression

A text is laid out as terms with separators around them and between them. Every
text has one layout, and its terms are the fields that cutting at each separator
leaves after the empty ones are dropped.
-/

namespace AccessMask.Expression

/-! ## Layouts -/

/-- A term and the separators that follow it. -/
@[ext]
structure Piece where
  term : List Char
  gap : List Char
  nonempty : term ≠ []
  solid : ∀ c ∈ term, isSeparator c = false
  blank : ∀ c ∈ gap, isSeparator c = true

/-- The text `s₀ t₁ s₁ … tₙ sₙ`: separators in front and the pieces behind them.
Only the last term may have nothing after it. -/
@[ext]
structure Layout where
  lead : List Char
  pieces : List Piece
  blank : ∀ c ∈ lead, isSeparator c = true
  apart : ∀ piece ∈ pieces.dropLast, piece.gap ≠ []

namespace Layout

/-- The characters of a layout in order. -/
def text (layout : Layout) : List Char :=
  layout.lead ++ layout.pieces.flatMap fun piece => piece.term ++ piece.gap

/-- The terms of a layout in order. -/
def terms (layout : Layout) : List String :=
  layout.pieces.map fun piece => String.ofList piece.term

end Layout

theorem apart_cons_iff {piece : Piece} {rest : List Piece} :
    (∀ other ∈ (piece :: rest).dropLast, other.gap ≠ []) ↔
      (rest ≠ [] → piece.gap ≠ []) ∧ ∀ other ∈ rest.dropLast, other.gap ≠ [] := by
  cases rest with
  | nil => simp
  | cons next others => simp

/-! ## The fields of a layout -/

/-- The fields that hold a character. -/
def solidFields (text : List Char) : List (List Char) :=
  (fields text).filter (· ≠ [])

theorem terms_eq (text : String) :
    terms text = (solidFields text.toList).map String.ofList :=
  rfl

theorem fields_of_solid {term : List Char} (solid : ∀ c ∈ term, isSeparator c = false) :
    fields term = [term] := by
  induction term with
  | nil => rfl
  | cons c rest inductionHypothesis =>
      obtain ⟨headSolid, restSolid⟩ := List.forall_mem_cons.mp solid
      rw [fields, inductionHypothesis restSolid]
      simp [headSolid]

theorem solidFields_append {separator : Char} (separates : isSeparator separator = true)
    (left right : List Char) :
    solidFields (left ++ separator :: right) = solidFields left ++ solidFields right := by
  rw [solidFields, fields_append separates, List.filter_append]
  rfl

theorem solidFields_of_solid {term : List Char} (nonempty : term ≠ [])
    (solid : ∀ c ∈ term, isSeparator c = false) :
    solidFields term = [term] := by
  simp [solidFields, fields_of_solid solid, nonempty]

theorem solidFields_blank_append {gap : List Char} (blank : ∀ c ∈ gap, isSeparator c = true)
    (text : List Char) :
    solidFields (gap ++ text) = solidFields text := by
  induction gap with
  | nil => rfl
  | cons c rest inductionHypothesis =>
      obtain ⟨headBlank, restBlank⟩ := List.forall_mem_cons.mp blank
      calc
        solidFields (c :: (rest ++ text))
            = solidFields [] ++ solidFields (rest ++ text) := solidFields_append headBlank [] _
        _ = solidFields (rest ++ text) := rfl
        _ = solidFields text := inductionHypothesis restBlank

theorem solidFields_append_of_ends {left : List Char}
    (ends : ∀ c ∈ left.getLast?, isSeparator c = true) (right : List Char) :
    solidFields (left ++ right) = solidFields left ++ solidFields right := by
  rcases List.eq_nil_or_concat left with rfl | ⟨others, last, rfl⟩
  · rfl
  · rw [List.concat_eq_append] at ends ⊢
    have separates : isSeparator last = true := ends last List.getLast?_concat
    have noFields : solidFields [] = [] := rfl
    rw [List.append_assoc, List.singleton_append, solidFields_append separates,
      solidFields_append separates, noFields, List.append_nil]

theorem solidFields_append_of_starts {right : List Char}
    (starts : ∀ c ∈ right.head?, isSeparator c = true) (left : List Char) :
    solidFields (left ++ right) = solidFields left ++ solidFields right := by
  cases right with
  | nil =>
      rw [List.append_nil]
      exact (List.append_nil _).symm
  | cons first rest =>
      have separates : isSeparator first = true := starts first rfl
      have restFields : solidFields (first :: rest) = solidFields rest :=
        solidFields_append separates [] rest
      rw [solidFields_append separates, restFields]

/-- Cutting a layout at each separator gives back its terms. The gap behind a
term holds a separator, which cuts the term off, or it ends the text. -/
theorem solidFields_text (layout : Layout) :
    solidFields layout.text = layout.pieces.map (·.term) := by
  rcases layout with ⟨lead, pieces, leadBlank, apart⟩
  rw [Layout.text, solidFields_blank_append leadBlank]
  change solidFields (pieces.flatMap fun piece => piece.term ++ piece.gap) =
    pieces.map (·.term)
  induction pieces with
  | nil => rfl
  | cons piece rest inductionHypothesis =>
      obtain ⟨gapNonempty, restApart⟩ := apart_cons_iff.mp apart
      have restFields := inductionHypothesis restApart
      have termFields := solidFields_of_solid piece.nonempty piece.solid
      rw [List.flatMap_cons, List.map_cons]
      cases shape : piece.gap with
      | nil =>
          have last : rest = [] := by
            by_contra more
            exact gapNonempty more shape
          rw [last, List.flatMap_nil, List.append_nil, List.append_nil]
          exact termFields
      | cons separator others =>
          have gapBlank := piece.blank
          rw [shape] at gapBlank
          obtain ⟨separates, othersBlank⟩ := List.forall_mem_cons.mp gapBlank
          rw [List.append_assoc, List.cons_append, solidFields_append separates, termFields,
            solidFields_blank_append othersBlank, restFields]
          rfl

/-- The terms that the reader finds in a text are those of its layout. -/
theorem terms_of_layout {text : String} {layout : Layout} (laid : layout.text = text.toList) :
    terms text = layout.terms := by
  rw [terms_eq, ← laid, solidFields_text, List.map_map]
  rfl

/-! ## Words with gaps between them -/

/-- A text that is one term. -/
def IsWord (word : String) : Prop :=
  word.toList ≠ [] ∧ ∀ c ∈ word.toList, isSeparator c = false

instance (word : String) : Decidable (IsWord word) :=
  decidable_of_iff (word.toList ≠ [] ∧ word.toList.all fun c => isSeparator c = false)
    (and_congr_right' List.all_iff_forall_prop)

theorem terms_of_isWord {word : String} (isWord : IsWord word) : terms word = [word] := by
  rw [terms_eq, solidFields_of_solid isWord.1 isWord.2]
  simp

/-- A word is one term of any text in which nothing touches it. -/
theorem terms_around {word : String} (isWord : IsWord word) {before after : String}
    (ends : ∀ c ∈ before.toList.getLast?, isSeparator c = true)
    (starts : ∀ c ∈ after.toList.head?, isSeparator c = true) :
    terms (before ++ word ++ after) = terms before ++ word :: terms after := by
  have wordFields : solidFields word.toList = [word.toList] :=
    solidFields_of_solid isWord.1 isWord.2
  rw [terms_eq, String.toList_append, String.toList_append, solidFields_append_of_starts starts,
    solidFields_append_of_ends ends, wordFields, List.append_assoc, List.map_append]
  simp [terms_eq]

/-- A text that keeps apart what stands on its two sides. -/
def IsGap (gap : String) : Prop :=
  gap.toList ≠ [] ∧ ∀ c ∈ gap.toList, isSeparator c = true

instance (gap : String) : Decidable (IsGap gap) :=
  decidable_of_iff (gap.toList ≠ [] ∧ gap.toList.all isSeparator) (and_congr_right' List.all_eq_true)

theorem terms_append_gap {gap : String} (isGap : IsGap gap) (left right : String) :
    terms (left ++ gap ++ right) = terms left ++ terms right := by
  obtain ⟨nonempty, blank⟩ := isGap
  obtain ⟨separator, others, shape⟩ := List.exists_cons_of_ne_nil nonempty
  rw [shape] at blank
  obtain ⟨separates, othersBlank⟩ := List.forall_mem_cons.mp blank
  have characters :
      (left ++ gap ++ right).toList = left.toList ++ separator :: (others ++ right.toList) := by
    simp [shape]
  rw [terms_eq, characters, solidFields_append separates, solidFields_blank_append othersBlank,
    List.map_append]
  rfl

theorem terms_append {separator : Char} (separates : isSeparator separator = true)
    (left right : String) :
    terms (left ++ String.singleton separator ++ right) = terms left ++ terms right :=
  terms_append_gap (by simp [IsGap, separates]) left right

theorem terms_append_space (left right : String) :
    terms (left ++ " " ++ right) = terms left ++ terms right :=
  terms_append_gap (by decide) left right

/-- Joining words with a gap neither merges nor splits their terms. -/
theorem terms_intercalate_gap {gap : String} (isGap : IsGap gap) (words : List String) :
    terms (gap.intercalate words) = words.flatMap terms := by
  induction words with
  | nil => rfl
  | cons word rest inductionHypothesis =>
      rw [List.flatMap_cons]
      cases rest with
      | nil => rw [String.intercalate_singleton, List.flatMap_nil, List.append_nil]
      | cons next others =>
          rw [String.intercalate_cons_cons, terms_append_gap isGap, inductionHypothesis]

theorem terms_intercalate_eq_flatMap (words : List String) :
    terms (" ".intercalate words) = words.flatMap terms :=
  terms_intercalate_gap (by decide) words

theorem terms_intercalate {gap : String} (isGap : IsGap gap) {words : List String}
    (areWords : ∀ word ∈ words, IsWord word) :
    terms (gap.intercalate words) = words := by
  have single : ∀ word ∈ words, terms word = [word] :=
    fun word member => terms_of_isWord (areWords word member)
  rw [terms_intercalate_gap isGap, List.flatMap_congr single]
  exact List.flatMap_singleton' words

/-! ## Every text has one layout -/

/-- A character that separates nothing extends the first term, if that stands
right behind it, and is a term of its own otherwise. -/
theorem exists_layout (text : List Char) : ∃ layout : Layout, layout.text = text := by
  induction text with
  | nil => exact ⟨⟨[], [], by simp, by simp⟩, rfl⟩
  | cons c rest inductionHypothesis =>
      rcases inductionHypothesis with ⟨⟨lead, pieces, leadBlank, apart⟩, rfl⟩
      cases separates : isSeparator c with
      | true =>
          have longerBlank : ∀ d ∈ c :: lead, isSeparator d = true :=
            List.forall_mem_cons.mpr ⟨separates, leadBlank⟩
          exact ⟨⟨c :: lead, pieces, longerBlank, apart⟩, rfl⟩
      | false =>
          by_cases touches : lead = [] ∧ pieces ≠ []
          · rcases touches with ⟨rfl, piecesNonempty⟩
            obtain ⟨piece, others, rfl⟩ := List.exists_cons_of_ne_nil piecesNonempty
            have longerSolid : ∀ d ∈ c :: piece.term, isSeparator d = false :=
              List.forall_mem_cons.mpr ⟨separates, piece.solid⟩
            let longer : Piece :=
              ⟨c :: piece.term, piece.gap, List.cons_ne_nil c piece.term, longerSolid, piece.blank⟩
            obtain ⟨gapNonempty, othersApart⟩ := apart_cons_iff.mp apart
            have longerApart : ∀ other ∈ (longer :: others).dropLast, other.gap ≠ [] :=
              apart_cons_iff.mpr ⟨gapNonempty, othersApart⟩
            exact ⟨⟨[], longer :: others, by simp, longerApart⟩, by simp [Layout.text, longer]⟩
          · let single : Piece :=
              ⟨[c], lead, List.cons_ne_nil c [], by simpa using separates, leadBlank⟩
            have singleApart :
                ∀ other ∈ (single :: pieces).dropLast, other.gap ≠ [] := by
              refine apart_cons_iff.mpr ⟨?_, apart⟩
              intro piecesNonempty leadEmpty
              exact touches ⟨leadEmpty, piecesNonempty⟩
            exact ⟨⟨[], single :: pieces, by simp, singleApart⟩, by simp [Layout.text, single]⟩

theorem isWord_of_mem_terms {text term : String} (member : term ∈ terms text) : IsWord term := by
  obtain ⟨layout, laid⟩ := exists_layout text.toList
  rw [terms_of_layout laid] at member
  obtain ⟨piece, _, rfl⟩ := List.mem_map.mp member
  rw [IsWord, String.toList_ofList]
  exact ⟨piece.nonempty, piece.solid⟩

/-- A text is cut in one way only into a run of characters of a class and a rest
that does not start with one of them. -/
theorem run_unique {member : Char → Bool} {leftRun rightRun leftRest rightRest : List Char}
    (leftMembers : ∀ c ∈ leftRun, member c = true)
    (leftStops : ∀ c ∈ leftRest.head?, member c = false)
    (rightMembers : ∀ c ∈ rightRun, member c = true)
    (rightStops : ∀ c ∈ rightRest.head?, member c = false)
    (same : leftRun ++ leftRest = rightRun ++ rightRest) :
    leftRun = rightRun ∧ leftRest = rightRest := by
  induction leftRun generalizing rightRun with
  | nil =>
      cases rightRun with
      | nil => exact ⟨rfl, same⟩
      | cons c others =>
          have stops := leftStops c (by simp at same; simp [same])
          have belongs := rightMembers c (by simp)
          simp [stops] at belongs
  | cons c others inductionHypothesis =>
      obtain ⟨headMember, othersMembers⟩ := List.forall_mem_cons.mp leftMembers
      cases rightRun with
      | nil =>
          have stops := rightStops c (by simp at same; simp [← same])
          simp [stops] at headMember
      | cons d rightOthers =>
          simp only [List.cons_append, List.cons.injEq] at same
          rcases same with ⟨rfl, same⟩
          obtain ⟨rfl, sameRest⟩ :=
            inductionHypothesis othersMembers (List.forall_mem_cons.mp rightMembers).2 same
          exact ⟨rfl, sameRest⟩

theorem pieces_head?_solid (pieces : List Piece) :
    ∀ c ∈ (pieces.flatMap fun piece => piece.term ++ piece.gap).head?, isSeparator c = false := by
  cases pieces with
  | nil => simp
  | cons piece rest =>
      obtain ⟨first, others, shape⟩ := List.exists_cons_of_ne_nil piece.nonempty
      have firstSolid : isSeparator first = false := piece.solid first (by simp [shape])
      simpa [shape] using firstSolid

theorem behind_head?_blank {piece : Piece} {rest : List Piece}
    (gapNonempty : rest ≠ [] → piece.gap ≠ []) :
    ∀ c ∈ (piece.gap ++ rest.flatMap fun piece => piece.term ++ piece.gap).head?,
      isSeparator c = true := by
  cases shape : piece.gap with
  | nil =>
      have last : rest = [] := by
        by_contra more
        exact gapNonempty more shape
      simp [last]
  | cons first others =>
      have firstBlank : isSeparator first = true := piece.blank first (by simp [shape])
      simpa using firstBlank

theorem pieces_eq_nil {pieces : List Piece}
    (empty : (pieces.flatMap fun piece => piece.term ++ piece.gap) = []) :
    pieces = [] := by
  cases pieces with
  | nil => rfl
  | cons piece rest =>
      simp only [List.flatMap_cons, List.append_eq_nil_iff] at empty
      exact absurd empty.1.1 piece.nonempty

/-- Lead, term and gap are runs of separators and of other characters by turns,
so each of them ends where the next one starts. -/
theorem layout_unique {left right : Layout} (same : left.text = right.text) : left = right := by
  rcases left with ⟨leftLead, leftPieces, leftBlank, leftApart⟩
  rcases right with ⟨rightLead, rightPieces, rightBlank, rightApart⟩
  simp only [Layout.text] at same
  induction leftPieces generalizing leftLead rightLead rightPieces with
  | nil =>
      obtain ⟨rfl, rightEmpty⟩ :=
        run_unique leftBlank (pieces_head?_solid []) rightBlank (pieces_head?_solid rightPieces) same
      obtain rfl := pieces_eq_nil rightEmpty.symm
      rfl
  | cons leftPiece leftRest inductionHypothesis =>
      obtain ⟨rfl, samePieces⟩ :=
        run_unique leftBlank (pieces_head?_solid (leftPiece :: leftRest)) rightBlank
          (pieces_head?_solid rightPieces) same
      cases rightPieces with
      | nil => exact absurd (pieces_eq_nil samePieces) (List.cons_ne_nil leftPiece leftRest)
      | cons rightPiece rightRest =>
          obtain ⟨leftGap, leftRestApart⟩ := apart_cons_iff.mp leftApart
          obtain ⟨rightGap, rightRestApart⟩ := apart_cons_iff.mp rightApart
          simp only [List.flatMap_cons, List.append_assoc] at samePieces
          have leftSolid : ∀ c ∈ leftPiece.term, (!isSeparator c) = true := by
            simpa using leftPiece.solid
          have rightSolid : ∀ c ∈ rightPiece.term, (!isSeparator c) = true := by
            simpa using rightPiece.solid
          obtain ⟨sameTerm, sameBehind⟩ :=
            run_unique leftSolid (by simpa using behind_head?_blank leftGap) rightSolid
              (by simpa using behind_head?_blank rightGap) samePieces
          have sameRest :=
            inductionHypothesis leftPiece.gap leftPiece.blank leftRestApart rightPiece.gap
              rightRest rightPiece.blank rightRestApart sameBehind
          simp only [Layout.mk.injEq] at sameRest
          rcases sameRest with ⟨sameGap, rfl⟩
          obtain rfl := Piece.ext sameTerm sameGap
          rfl

end AccessMask.Expression
