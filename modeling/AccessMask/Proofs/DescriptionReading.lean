import AccessMask.Description
import AccessMask.Proofs.NumeralTerms

/-!
# Reading a description

A description is an expression: its words are the terms. Read for the kind that
it was written for it gives back its mask. Read for another kind it gives the
mask or fails at the lowest named bit whose name that kind does not know. It
never gives another mask.
-/

namespace AccessMask.Description

open Expression

/-! ## The words of a description as terms -/

theorem isWord_name (declaration : Declaration) :
    ∀ entry ∈ declaration.modifiers.entries, IsWord entry.name := by
  cases declaration <;> decide

theorem terms_text (description : Description) : terms description.text = description.words :=
  terms_intercalate (by decide)
    (Vocabulary.forall_words (isWord_name description.declaration) (Numeral.Form.hex.isWord_write _))

theorem words_zero (vocabulary : Vocabulary) : vocabulary.words 0 = [] := by
  have unnamed : (0 : Mask) &&& vocabulary.namedMask = 0 := BitVec.zero_and
  rw [Vocabulary.words_of_unnamed unnamed, if_pos rfl]

theorem text_zero (declaration : Declaration) : text ⟨0, declaration⟩ = "" := by
  rw [text, words, words_zero]
  rfl

/-! ## Reading the words -/

/-- A named bit of the mask whose name means nothing to the reader. -/
def Foreign (printer reader : Declaration) (mask : Mask) (entry : NamedBit) : Prop :=
  entry ∈ printer.modifiers.entries ∧
    mask &&& entry.bit ≠ 0 ∧
    ∀ known ∈ reader.modifiers.entries, known.name ≠ entry.name

theorem mem_namedBits_iff {declaration : Declaration} {mask : Mask} {entry : NamedBit} :
    entry ∈ declaration.modifiers.namedBits mask ↔
      entry ∈ declaration.modifiers.entries ∧ mask &&& entry.bit ≠ 0 := by
  simp [Vocabulary.mem_namedBits, Mask.meets]

/-- A printed name that is not foreign stands for the bit that it was printed
for. -/
theorem termDenotes_of_not_foreign {printer reader : Declaration} {mask : Mask} {entry : NamedBit}
    (printed : entry ∈ printer.modifiers.namedBits mask)
    (notForeign : ¬ Foreign printer reader mask entry) :
    TermDenotes reader entry.name entry.bit := by
  obtain ⟨inPrinter, shared⟩ := mem_namedBits_iff.mp printed
  have known : ∃ known ∈ reader.modifiers.entries, known.name = entry.name := by
    by_contra unknown
    exact notForeign ⟨inPrinter, shared, fun other member same => unknown ⟨other, member, same⟩⟩
  rcases known with ⟨⟨name, bit⟩, inReader, rfl⟩
  have sameBit : bit = entry.bit :=
    Declaration.bit_eq_of_name_eq reader printer _ inReader entry inPrinter rfl
  subst sameBit
  exact TermDenotes.modifier inReader

theorem not_termDenotes_of_foreign {printer reader : Declaration} {mask : Mask}
    {entry : NamedBit} (foreign : Foreign printer reader mask entry) (value : Mask) :
    ¬ TermDenotes reader entry.name value := by
  rcases foreign with ⟨inPrinter, _, unknown⟩
  intro denotes
  generalize shape : entry.name = term at denotes
  cases denotes with
  | modifier member => exact unknown _ member shape.symm
  | literal digit _ =>
      rw [← shape, startsWithDigit_name printer entry inPrinter] at digit
      exact Bool.false_ne_true digit

theorem termFault_of_foreign {printer reader : Declaration} {mask : Mask} {entry : NamedBit}
    (foreign : Foreign printer reader mask entry) :
    termFault reader entry.name = .unknownModifier entry.name reader := by
  rw [termFault, startsWithDigit_name printer entry foreign.1]
  rfl

theorem termMasks_words {printer reader : Declaration} {mask : Mask}
    (noneForeign : ∀ entry, ¬ Foreign printer reader mask entry) :
    ∃ masks,
      termMasks reader (printer.modifiers.words mask) = .ok masks ∧ Mask.union masks = mask := by
  have names :
      ∀ entry ∈ printer.modifiers.namedBits mask, TermDenotes reader entry.name entry.bit :=
    fun entry printed => termDenotes_of_not_foreign printed (noneForeign entry)
  have numeral := Numeral.Form.hex.termDenotes_write (printer.modifiers.unnamedMask mask) reader
  obtain ⟨masks, denote, whole⟩ := printer.modifiers.forall₂_words mask names numeral
  exact ⟨masks, termMasks_eq_ok_iff.mpr denote, whole⟩

theorem words_ne_nil {vocabulary : Vocabulary} {mask : Mask} (nonzero : mask ≠ 0) :
    vocabulary.words mask ≠ [] := by
  by_cases unnamed : mask &&& vocabulary.namedMask = 0
  · rw [Vocabulary.words_of_unnamed unnamed, if_neg nonzero]
    exact List.cons_ne_nil _ _
  · obtain ⟨entry, _, others, words⟩ := Vocabulary.words_of_named unnamed
    rw [words]
    exact List.cons_ne_nil _ _

theorem mask_text_eq (reader printer : Declaration) {mask : Mask} (nonzero : mask ≠ 0) :
    Expression.mask reader (text ⟨mask, printer⟩) =
      (termMasks reader (printer.modifiers.words mask)).map Mask.union := by
  rw [Expression.mask, terms_text]
  exact unionMask_of_ne_nil (words_ne_nil nonzero) reader

theorem mask_text_zero (reader printer : Declaration) :
    Expression.mask reader (text ⟨0, printer⟩) = .error .empty := by
  rw [Expression.mask, terms_text, words, words_zero]
  rfl

theorem mask_text_of_none_foreign {printer reader : Declaration} {mask : Mask}
    (nonzero : mask ≠ 0) (noneForeign : ∀ entry, ¬ Foreign printer reader mask entry) :
    Expression.mask reader (text ⟨mask, printer⟩) = .ok mask := by
  rw [mask_text_eq reader printer nonzero]
  exact map_eq_ok_iff.mpr (termMasks_words noneForeign)

theorem not_foreign_self (declaration : Declaration) (mask : Mask) (entry : NamedBit) :
    ¬ Foreign declaration declaration mask entry :=
  fun ⟨inDeclaration, _, unknown⟩ => unknown entry inDeclaration rfl

theorem mask_text_self (declaration : Declaration) {mask : Mask} (nonzero : mask ≠ 0) :
    Expression.mask declaration (text ⟨mask, declaration⟩) = .ok mask :=
  mask_text_of_none_foreign nonzero (not_foreign_self declaration mask)

/-! ## The lowest foreign bit -/

/-- The names are in ascending order of bits, so the first foreign one has the
lowest bit. -/
theorem exists_lowest_foreign {printer reader : Declaration} {mask : Mask}
    (someForeign : ∃ entry, Foreign printer reader mask entry) :
    ∃ before entry after,
      printer.modifiers.namedBits mask = before ++ entry :: after ∧
        (∀ other ∈ before, ¬ Foreign printer reader mask other) ∧
        Foreign printer reader mask entry ∧
        ∀ other, Foreign printer reader mask other → entry.bit ≤ other.bit := by
  classical
  rcases someForeign with ⟨witness, foreign⟩
  have printed : witness ∈ printer.modifiers.namedBits mask :=
    mem_namedBits_iff.mpr ⟨foreign.1, foreign.2.1⟩
  have present :
      ((printer.modifiers.namedBits mask).find? fun entry =>
        Foreign printer reader mask entry).isSome := by
    rw [List.find?_isSome]
    exact ⟨witness, printed, decide_eq_true foreign⟩
  obtain ⟨entry, found⟩ := Option.isSome_iff_exists.mp present
  obtain ⟨entryForeign, before, after, shape, beforeKnown⟩ :=
    List.find?_eq_some_iff_append.mp found
  have beforeNotForeign : ∀ other ∈ before, ¬ Foreign printer reader mask other := by
    intro other member
    simpa using beforeKnown other member
  refine ⟨before, entry, after, shape, beforeNotForeign, of_decide_eq_true entryForeign, ?_⟩
  intro other otherForeign
  have ascending : (before ++ entry :: after).Pairwise (·.bit < ·.bit) := by
    rw [← shape]
    exact printer.modifiers.ascending.filter _
  have member : other ∈ before ++ entry :: after := by
    rw [← shape]
    exact mem_namedBits_iff.mpr ⟨otherForeign.1, otherForeign.2.1⟩
  rcases List.mem_append.mp member with inBefore | inRest
  · exact absurd otherForeign (beforeNotForeign other inBefore)
  · rcases List.mem_cons.mp inRest with same | inAfter
    · rw [same]
      exact BitVec.le_refl entry.bit
    · have restAscending := (List.pairwise_append.mp ascending).2.1
      exact BitVec.le_of_lt ((List.pairwise_cons.mp restAscending).1 other inAfter)

theorem mask_text_of_lowest_foreign {printer reader : Declaration} {mask : Mask}
    {before after : List NamedBit} {entry : NamedBit}
    (shape : printer.modifiers.namedBits mask = before ++ entry :: after)
    (beforeKnown : ∀ other ∈ before, ¬ Foreign printer reader mask other)
    (foreign : Foreign printer reader mask entry) :
    Expression.mask reader (text ⟨mask, printer⟩) =
      .error (.unknownModifier entry.name reader) := by
  have nonzero : mask ≠ 0 := by
    intro zero
    apply foreign.2.1
    rw [zero]
    exact BitVec.zero_and
  rw [mask_text_eq reader printer nonzero, map_eq_error_iff, termMasks_eq_error_iff]
  let numeral :=
    if printer.modifiers.unnamedMask mask = 0 then []
    else [Numeral.hex (printer.modifiers.unnamedMask mask)]
  refine ⟨before.map (·.name), entry.name, after.map (·.name) ++ numeral, ?_, ?_,
    not_termDenotes_of_foreign foreign, (termFault_of_foreign foreign).symm⟩
  · simp [Vocabulary.words, shape, numeral]
  · intro term member
    obtain ⟨other, inBefore, rfl⟩ := List.mem_map.mp member
    have printed : other ∈ printer.modifiers.namedBits mask := by
      rw [shape]
      exact List.mem_append_left _ inBefore
    exact ⟨other.bit, termDenotes_of_not_foreign printed (beforeKnown other inBefore)⟩

/-- What reading makes of a description, whichever kinds of declaration write
and read it: the zero mask leaves no term, a foreign bit is a fault that names
the lowest of them, and any other mask comes back. -/
theorem mask_text (printer reader : Declaration) (mask : Mask) :
    (mask = 0 → Expression.mask reader (text ⟨mask, printer⟩) = .error .empty) ∧
      ((∃ entry, Foreign printer reader mask entry) →
        ∃ entry,
          Foreign printer reader mask entry ∧
            (∀ other, Foreign printer reader mask other → entry.bit ≤ other.bit) ∧
            Expression.mask reader (text ⟨mask, printer⟩) =
              .error (.unknownModifier entry.name reader)) ∧
      (mask ≠ 0 → (∀ entry, ¬ Foreign printer reader mask entry) →
        Expression.mask reader (text ⟨mask, printer⟩) = .ok mask) ∧
      (mask ≠ 0 → Expression.mask printer (text ⟨mask, printer⟩) = .ok mask) := by
  refine ⟨?_, ?_, mask_text_of_none_foreign, mask_text_self printer⟩
  · intro zero
    rw [zero]
    exact mask_text_zero reader printer
  · intro someForeign
    obtain ⟨before, entry, after, shape, beforeKnown, foreign, lowest⟩ :=
      exists_lowest_foreign someForeign
    exact ⟨entry, foreign, lowest, mask_text_of_lowest_foreign shape beforeKnown foreign⟩

theorem mask_text_mixed :
    Expression.mask .method (text ⟨0, .type⟩) = .error .empty ∧
      (∃ entry,
        Foreign .type .method 0x80621 entry ∧
          (∀ other, Foreign .type .method 0x80621 other → entry.bit ≤ other.bit) ∧
          Expression.mask .method (text ⟨0x80621, .type⟩) =
            .error (.unknownModifier entry.name .method)) ∧
      Expression.mask .field (text ⟨0x80011, .type⟩) = .ok 0x80011 ∧
      Expression.mask .type (text ⟨0x80621, .type⟩) = .ok 0x80621 := by
  have superForeign : Foreign .type .method 0x80621 ⟨"super", Mask.accSuper⟩ :=
    ⟨by decide, by decide, by decide⟩
  have allKnown :
      ∀ entry ∈ Declaration.type.modifiers.entries, (0x80011 : Mask) &&& entry.bit ≠ 0 →
        ∃ known ∈ Declaration.field.modifiers.entries, known.name = entry.name := by
    decide
  have noneForeign : ∀ entry, ¬ Foreign .type .field 0x80011 entry := by
    intro entry foreign
    rcases foreign with ⟨inType, shared, unknown⟩
    rcases allKnown entry inType shared with ⟨known, inField, sameName⟩
    exact unknown known inField sameName
  exact ⟨(mask_text .type .method 0).1 rfl,
    (mask_text .type .method 0x80621).2.1 ⟨_, superForeign⟩,
    (mask_text .type .field 0x80011).2.2.1 (by decide) noneForeign,
    (mask_text .type .method 0x80621).2.2.2 (by decide)⟩

end AccessMask.Description
