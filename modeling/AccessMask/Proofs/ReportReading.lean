import AccessMask.CommandLine.Outcome
import AccessMask.Declaration.Reading
import AccessMask.Proofs.PrintedCharacters

/-!
# Reading a report back

Both layouts of a report hold one record: ten values in a fixed order, each on
a line of its own behind its label. Reading a layout line by line gives the
record back, and the record tells the mask and the kind of declaration.
-/

namespace AccessMask.Report

open Text

/-! ## Lines -/

/-- The lines of a text. Behind the last line break nothing is left. -/
def linesOf (text : String) : List String :=
  (text.toList.splitOn '\n').dropLast.map String.ofList

theorem splitOn_line {line : List Char} (unbroken : '\n' ∉ line) (rest : List Char) :
    (line ++ '\n' :: rest).splitOn '\n' = line :: rest.splitOn '\n' := by
  rw [List.splitOn_append_cons_self, List.splitOn_eq_singleton unbroken]
  rfl

theorem linesOf_join {lines : List String} (unbroken : ∀ line ∈ lines, '\n' ∉ line.toList) :
    linesOf (String.join (lines.map (· ++ "\n"))) = lines := by
  induction lines with
  | nil => rfl
  | cons line rest inductionHypothesis =>
      obtain ⟨lineUnbroken, restUnbroken⟩ := List.forall_mem_cons.mp unbroken
      have characters :
          (String.join ((line :: rest).map (· ++ "\n"))).toList =
            line.toList ++ '\n' :: (String.join (rest.map (· ++ "\n"))).toList := by
        simp [String.toList_join]
      have restLines := inductionHypothesis restUnbroken
      rw [linesOf] at restLines ⊢
      rw [characters, splitOn_line lineUnbroken,
        List.dropLast_cons_of_ne_nil (List.splitOn_ne_nil _ _), List.map_cons, restLines,
        String.ofList_toList]

/-! ## One line -/

/-- The label of a line of the table, and what stands behind its first eighteen
columns. -/
def readTableLine (line : String) : String × String :=
  (String.ofList ((line.toList.take 18).takeWhile (· ≠ ':')), String.ofList (line.toList.drop 18))

/-- Takes a pair of single quotes off a text. -/
def unquoted : List Char → List Char
  | '\x27' :: rest => if rest.getLast? = some '\x27' then rest.dropLast else '\x27' :: rest
  | text => text

/-- The key of a line of the document, and the value behind the colon and the
space, without quotes around it. -/
def readDocumentLine (line : String) : String × String :=
  (String.ofList (line.toList.takeWhile (· ≠ ':')),
    String.ofList (unquoted ((line.toList.dropWhile (· ≠ ':')).drop 2)))

/-- A label that fits in the column of the table with its colon and is told
apart from what stands behind it. -/
def IsLabel (label : String) : Prop :=
  label.length < 18 ∧ ':' ∉ label.toList ∧ '\n' ∉ label.toList

instance (label : String) : Decidable (IsLabel label) :=
  inferInstanceAs (Decidable (_ ∧ _ ∧ _))

theorem unquoted_quoted (text : String) : unquoted (Yaml.quoted text).toList = text.toList := by
  simp [Yaml.quoted, unquoted]

theorem unquoted_of_not_mem {text : List Char} (noQuote : '\x27' ∉ text) :
    unquoted text = text := by
  unfold unquoted
  split
  case h_1 => simp at noQuote
  case h_2 => rfl

theorem unquoted_scalar {value : Value} (bare : IsBare value.plain) :
    unquoted (Yaml.scalar value).toList = value.plain.toList := by
  have noQuote : '\x27' ∉ value.plain.toList := not_mem_of_isBare bare (by decide)
  cases value with
  | truth value => exact unquoted_of_not_mem noQuote
  | text value =>
      rw [Yaml.scalar]
      split
      case isTrue => exact unquoted_quoted value
      case isFalse => exact unquoted_of_not_mem noQuote

theorem toList_line (entry : Entry) (short : entry.heading.length < 18) :
    ∃ padding,
      entry.line.toList = (entry.heading.toList ++ ':' :: padding) ++ entry.value.plain.toList ∧
        (entry.heading.toList ++ ':' :: padding).length = 18 := by
  refine ⟨List.replicate (18 - (entry.heading.toList ++ [':']).length) ' ', ?_, ?_⟩
  · simp [Entry.line, headingText, headingWidth, List.rightpad]
  · rw [← String.length_toList] at short
    simp only [List.length_append, List.length_cons, List.length_nil, List.length_replicate]
    omega

theorem readTableLine_line {entry : Entry} (isLabel : IsLabel entry.heading) :
    readTableLine entry.line = (entry.heading, entry.value.plain) := by
  obtain ⟨short, noColon, _⟩ := isLabel
  obtain ⟨padding, characters, width⟩ := toList_line entry short
  rw [readTableLine, characters, List.take_left' width, List.drop_left' width,
    takeWhile_before noColon, String.ofList_toList, String.ofList_toList]

theorem readDocumentLine_line {entry : Entry} (isLabel : IsLabel entry.key)
    (bare : IsBare entry.value.plain) :
    readDocumentLine (Yaml.line entry) = (entry.key, entry.value.plain) := by
  obtain ⟨_, noColon, _⟩ := isLabel
  have characters :
      (Yaml.line entry).toList =
        entry.key.toList ++ ':' :: ' ' :: (Yaml.scalar entry.value).toList := by
    simp [Yaml.line]
  have value : List.drop 2 (':' :: ' ' :: (Yaml.scalar entry.value).toList) =
      (Yaml.scalar entry.value).toList := rfl
  rw [readDocumentLine, characters, takeWhile_before noColon, dropWhile_before noColon, value,
    unquoted_scalar bare, String.ofList_toList, String.ofList_toList]

/-! ## The entries of a report -/

theorem isLabel_name (predicate : Inspection.Predicate) : IsLabel predicate.name := by
  cases predicate <;> decide

theorem isBare_truthText (value : Bool) : IsBare (truthText value) := by
  cases value <;> decide

/-- A report has nothing in it that a layout could take for something else. -/
theorem entry_shape {report : Report} :
    ∀ entry ∈ report.entries,
      IsLabel entry.heading ∧ IsLabel entry.key ∧ IsBare entry.value.plain := by
  intro entry member
  rw [entries, List.mem_append, List.mem_map] at member
  rcases member with textual | ⟨verdict, listed, rfl⟩
  · have kindLabels : IsLabel "Kind" ∧ IsLabel "kind" := by decide
    have flagsLabels : IsLabel "Flags" ∧ IsLabel "flags" := by decide
    have modifiersLabels : IsLabel "Modifiers" ∧ IsLabel "modifiers" := by decide
    have kindBare : IsBare report.declaration.name := by cases report.declaration <;> decide
    simp only [List.mem_cons, List.not_mem_nil, or_false] at textual
    rcases textual with rfl | rfl | rfl
    · exact ⟨kindLabels.1, kindLabels.2, kindBare⟩
    · exact ⟨flagsLabels.1, flagsLabels.2, isBare_numeral .paddedHex _⟩
    · exact ⟨modifiersLabels.1, modifiersLabels.2, isBare_description _ _⟩
  · obtain ⟨predicate, _, rfl⟩ := List.mem_map.mp listed
    exact ⟨isLabel_name predicate, isLabel_name predicate, isBare_truthText _⟩

end AccessMask.Report

namespace AccessMask.CommandLine

open Report Text

/-! ## Both layouts -/

/-- The ten values that a report on a mask holds. -/
def recordValues (declaration : Declaration) (mask : Mask) : List String :=
  declaration.name :: Numeral.paddedHex mask :: Description.text ⟨mask, declaration⟩ ::
    Inspection.Predicate.all.map fun predicate =>
      truthText ((Inspection.ofMask mask).satisfies predicate)

/-- What the values of a record tell: the kind of declaration and the mask. -/
def recordSubject : List String → Option (Declaration × Mask)
  | kind :: numeral :: _ => do
      let declaration ← (Declaration.read kind).toOption
      let mask ← (Literal.read numeral).toOption
      return (declaration, mask)
  | _ => none

namespace Format

/-- The labels of a layout in their order. -/
def labels : Format → List String
  | .text =>
      ["Kind", "Flags", "Modifiers", "is_private", "is_not_private", "is_final", "is_abstract",
        "is_interface", "is_static", "is_not_static"]
  | .yaml =>
      ["kind", "flags", "modifiers", "is_private", "is_not_private", "is_final", "is_abstract",
        "is_interface", "is_static", "is_not_static"]

/-- Reads a line of a layout into its label and its value. -/
def readLine : Format → String → String × String
  | .text => readTableLine
  | .yaml => readDocumentLine

/-- Reads every line of an output. -/
def readOutput (layout : Format) (output : String) : List (String × String) :=
  (linesOf output).map layout.readLine

def label : Format → Entry → String
  | .text, entry => entry.heading
  | .yaml, entry => entry.key

def line : Format → Entry → String
  | .text => Entry.line
  | .yaml => Yaml.line

variable (layout : Format) (declaration : Declaration) (mask : Mask)

theorem output_query :
    (Action.query layout).output declaration mask =
      String.join
        (((Report.entries ⟨declaration, .ofDeclaration declaration mask⟩).map layout.line).map
          (· ++ "\n")) := by
  cases layout <;> rfl

theorem line_unbroken {report : Report} {entry : Entry} (member : entry ∈ report.entries) :
    '\n' ∉ (layout.line entry).toList := by
  obtain ⟨⟨_, _, headingUnbroken⟩, ⟨_, _, keyUnbroken⟩, bare⟩ := entry_shape entry member
  have valueUnbroken : '\n' ∉ entry.value.plain.toList := not_mem_of_isBare bare (by decide)
  cases layout with
  | text => simp [line, Entry.line, headingText, List.rightpad, headingUnbroken, valueUnbroken]
  | yaml =>
      have scalarUnbroken : '\n' ∉ (Yaml.scalar entry.value).toList := by
        cases shape : entry.value with
        | truth value =>
            rw [shape] at valueUnbroken
            exact valueUnbroken
        | text value =>
            rw [shape] at valueUnbroken
            have textUnbroken : '\n' ∉ value.toList := valueUnbroken
            rw [Yaml.scalar]
            split <;> simp [Yaml.quoted, textUnbroken]
      simp [line, Yaml.line, keyUnbroken, scalarUnbroken]

theorem readLine_line {report : Report} {entry : Entry} (member : entry ∈ report.entries) :
    layout.readLine (layout.line entry) = (layout.label entry, entry.value.plain) := by
  obtain ⟨headingLabel, keyLabel, bare⟩ := entry_shape entry member
  cases layout with
  | text => exact readTableLine_line headingLabel
  | yaml => exact readDocumentLine_line keyLabel bare

theorem linesOf_output :
    linesOf ((Action.query layout).output declaration mask) =
      (Report.entries ⟨declaration, .ofDeclaration declaration mask⟩).map layout.line := by
  rw [output_query]
  apply linesOf_join
  intro written member
  obtain ⟨entry, inEntries, rfl⟩ := List.mem_map.mp member
  exact layout.line_unbroken inEntries

/-- An output is read back as the record with its labels. -/
theorem readOutput_query :
    layout.readOutput ((Action.query layout).output declaration mask) =
      layout.labels.zip (recordValues declaration mask) := by
  have readEach :
      ∀ entry ∈ Report.entries ⟨declaration, .ofDeclaration declaration mask⟩,
        (layout.readLine ∘ layout.line) entry = (layout.label entry, entry.value.plain) :=
    fun entry member => layout.readLine_line member
  rw [readOutput, linesOf_output, List.map_map, List.map_congr_left readEach]
  cases declaration <;> cases layout <;> rfl

theorem recordSubject_recordValues :
    recordSubject (recordValues declaration mask) = some (declaration, mask) := by
  rw [recordValues, recordSubject, Declaration.read_name, Numeral.read_paddedHex]
  rfl

/-- Each layout writes ten lines, which are read back as the ten values of the
record behind their labels, and the record alone tells the kind of declaration
and the mask. -/
theorem layouts_hold_record :
    let output := (Action.query layout).output declaration mask
    String.join ((linesOf output).map (· ++ "\n")) = output ∧
      (linesOf output).length = 10 ∧
      (layout.readOutput output).map (·.1) = layout.labels ∧
      (layout.readOutput output).map (·.2) = recordValues declaration mask ∧
      recordSubject ((layout.readOutput output).map (·.2)) = some (declaration, mask) := by
  have sameLength : layout.labels.length = (recordValues declaration mask).length := by
    cases layout <;> rfl
  have labelsBack :
      (layout.labels.zip (recordValues declaration mask)).map (·.1) = layout.labels :=
    List.map_fst_zip sameLength.le
  have valuesBack :
      (layout.labels.zip (recordValues declaration mask)).map (·.2) =
        recordValues declaration mask :=
    List.map_snd_zip sameLength.ge
  intro output
  refine ⟨?_, ?_, ?_, ?_, ?_⟩
  · rw [linesOf_output]
    exact (layout.output_query declaration mask).symm
  · rw [linesOf_output, List.length_map]
    rfl
  · rw [readOutput_query, labelsBack]
  · rw [readOutput_query, valuesBack]
  · rw [readOutput_query, valuesBack, recordSubject_recordValues]

end Format

end AccessMask.CommandLine
