import AccessMask.Declaration.Modifiers
import Mathlib.Data.List.Forall2
import Mathlib.Data.List.Nodup
import Mathlib.Data.List.Sort

/-!
# Laws of vocabularies

Names and bits of a vocabulary determine each other, and a mask is the union of
its named bits and the rest. Both follow from the laws that a vocabulary
carries, so they hold of any table of names.
-/

namespace AccessMask.Mask

theorem and_ne_zero_iff {left right : Mask} :
    left &&& right ≠ 0 ↔
      ∃ position, left.getLsbD position = true ∧ right.getLsbD position = true := by
  constructor
  · intro shared
    by_contra apart
    apply shared
    apply BitVec.eq_of_getLsbD_eq
    intro position _
    rw [BitVec.getLsbD_and, BitVec.ofNat_eq_ofNat, BitVec.getLsbD_zero, ← Bool.not_eq_true,
      Bool.and_eq_true]
    exact fun both => apart ⟨position, both⟩
  · rintro ⟨position, leftSet, rightSet⟩ zero
    have bothSet : (left &&& right).getLsbD position = true := by
      rw [BitVec.getLsbD_and, leftSet, rightSet]
      rfl
    rw [zero, BitVec.ofNat_eq_ofNat, BitVec.getLsbD_zero] at bothSet
    exact Bool.false_ne_true bothSet

end AccessMask.Mask

namespace AccessMask.Vocabulary

variable {vocabulary : Vocabulary}

/-! ## Looking up a name -/

theorem bit?_eq_some_iff {name : String} {bit : Mask} :
    vocabulary.bit? name = some bit ↔ ⟨name, bit⟩ ∈ vocabulary.entries := by
  unfold bit?
  rw [Option.map_eq_some_iff]
  constructor
  · intro image
    rcases image with ⟨entry, found, rfl⟩
    have sameName : entry.name = name := by simpa using List.find?_some found
    subst sameName
    exact List.mem_of_find?_eq_some found
  · intro member
    have present : (vocabulary.entries.find? (·.name = name)).isSome := by
      rw [List.find?_isSome]
      exact ⟨⟨name, bit⟩, member, by simp⟩
    obtain ⟨entry, found⟩ := Option.isSome_iff_exists.mp present
    have sameName : entry.name = name := by simpa using List.find?_some found
    have sameEntry : entry = ⟨name, bit⟩ :=
      List.inj_on_of_nodup_map vocabulary.distinctNames (List.mem_of_find?_eq_some found) member
        sameName
    exact ⟨entry, found, by rw [sameEntry]⟩

/-! ## The named part of a mask -/

theorem and_singleBit {bit : Mask} (single : ∃ position : Fin 32, bit = BitVec.twoPow 32 position)
    (mask : Mask) :
    mask &&& bit = if mask.meets bit then bit else 0 := by
  rcases single with ⟨position, rfl⟩
  rw [Mask.meets, BitVec.and_twoPow]
  split <;> simp

theorem union_filter_meets {entries : List NamedBit}
    (single : ∀ entry ∈ entries, ∃ position : Fin 32, entry.bit = BitVec.twoPow 32 position)
    (mask : Mask) :
    Mask.union ((entries.filter fun entry => mask.meets entry.bit).map (·.bit)) =
      mask &&& Mask.union (entries.map (·.bit)) := by
  induction entries with
  | nil => simp [Mask.union]
  | cons entry rest inductionHypothesis =>
      obtain ⟨entrySingle, restSingle⟩ := List.forall_mem_cons.mp single
      have restUnion := inductionHypothesis restSingle
      have entryPart := and_singleBit entrySingle mask
      rw [List.map_cons, Mask.union, BitVec.and_or_distrib_left, ← restUnion, entryPart]
      cases shared : mask.meets entry.bit with
      | true => simp [shared, Mask.union]
      | false => simp [shared]

theorem union_namedBits (vocabulary : Vocabulary) (mask : Mask) :
    Mask.union ((vocabulary.namedBits mask).map (·.bit)) = mask &&& vocabulary.namedMask :=
  union_filter_meets vocabulary.singleBits mask

/-- The words of a mask leave out no bit. -/
theorem union_namedBits_or_unnamedMask (vocabulary : Vocabulary) (mask : Mask) :
    Mask.union ((vocabulary.namedBits mask).map (·.bit)) ||| vocabulary.unnamedMask mask =
      mask := by
  rw [union_namedBits, unnamedMask, Mask.without, ← BitVec.and_or_distrib_left,
    BitVec.or_not_self, BitVec.and_allOnes]

/-- What is true of every name and of the numeral of the unnamed bits is true
of every word. -/
theorem forall_words {IsGood : String → Prop} {mask : Mask}
    (names : ∀ entry ∈ vocabulary.entries, IsGood entry.name)
    (numeral : IsGood (Numeral.hex (vocabulary.unnamedMask mask))) :
    ∀ word ∈ vocabulary.words mask, IsGood word := by
  intro word member
  rw [words, List.mem_append] at member
  rcases member with named | unnamed
  · obtain ⟨entry, printed, rfl⟩ := List.mem_map.mp named
    exact names entry (mem_namedBits.mp printed).1
  · split at unnamed
    case isTrue => simp at unnamed
    case isFalse =>
      rw [List.mem_singleton.mp unnamed]
      exact numeral

/-- The words of a mask stand for masks that make it up, if each name stands
for its bit and each numeral for its number. -/
theorem forall₂_words {StandsFor : String → Mask → Prop} (vocabulary : Vocabulary) (mask : Mask)
    (names : ∀ entry ∈ vocabulary.namedBits mask, StandsFor entry.name entry.bit)
    (numeral : StandsFor (Numeral.hex (vocabulary.unnamedMask mask)) (vocabulary.unnamedMask mask)) :
    ∃ masks, List.Forall₂ StandsFor (vocabulary.words mask) masks ∧ Mask.union masks = mask := by
  let bits := (vocabulary.namedBits mask).map (·.bit)
  have namesStand :
      List.Forall₂ StandsFor ((vocabulary.namedBits mask).map (·.name)) bits := by
    rw [List.forall₂_map_left_iff, List.forall₂_map_right_iff, List.forall₂_same]
    exact names
  have decomposition := union_namedBits_or_unnamedMask vocabulary mask
  by_cases noRest : vocabulary.unnamedMask mask = 0
  · refine ⟨bits, ?_, ?_⟩
    · rw [words, if_pos noRest, List.append_nil]
      exact namesStand
    · simpa [noRest] using decomposition
  · refine ⟨bits ++ [vocabulary.unnamedMask mask], ?_, ?_⟩
    · rw [words, if_neg noRest]
      exact List.rel_append namesStand (.cons numeral .nil)
    · rw [Mask.union_append]
      simpa [Mask.union] using decomposition

/-! ## Masks put together from names and a rest -/

theorem getLsbD_union (masks : List Mask) (position : Nat) :
    (Mask.union masks).getLsbD position = masks.any (·.getLsbD position) := by
  induction masks with
  | nil => simp [Mask.union]
  | cons mask rest inductionHypothesis => simp [Mask.union, inductionHypothesis]

theorem getLsbD_union_bits_iff {entries : List NamedBit} {position : Nat} :
    (Mask.union (entries.map (·.bit))).getLsbD position = true ↔
      ∃ entry ∈ entries, entry.bit.getLsbD position = true := by
  rw [getLsbD_union, List.any_map, List.any_eq_true]
  rfl

theorem getLsbD_namedMask {entry : NamedBit} (member : entry ∈ vocabulary.entries)
    {position : Nat} (isSet : entry.bit.getLsbD position = true) :
    vocabulary.namedMask.getLsbD position = true := by
  rw [namedMask]
  exact getLsbD_union_bits_iff.mpr ⟨entry, member, isSet⟩

/-! ## Words with and without names -/

theorem namedBits_eq_nil_iff {mask : Mask} :
    vocabulary.namedBits mask = [] ↔ mask &&& vocabulary.namedMask = 0 := by
  rw [← union_namedBits]
  constructor
  · intro noNames
    rw [noNames]
    rfl
  · intro noBits
    by_contra someName
    obtain ⟨entry, others, shape⟩ := List.exists_cons_of_ne_nil someName
    have printed : entry ∈ vocabulary.namedBits mask := by
      rw [shape]
      exact List.mem_cons_self
    obtain ⟨listed, met⟩ := mem_namedBits.mp printed
    obtain ⟨position, maskSet, bitSet⟩ := Mask.and_ne_zero_iff.mp (bne_iff_ne.mp met)
    rw [union_namedBits] at noBits
    exact Mask.and_ne_zero_iff.mpr ⟨position, maskSet, getLsbD_namedMask listed bitSet⟩ noBits

theorem words_of_unnamed {mask : Mask} (unnamed : mask &&& vocabulary.namedMask = 0) :
    vocabulary.words mask = if mask = 0 then [] else [Numeral.hex mask] := by
  have noNames := namedBits_eq_nil_iff.mpr unnamed
  have decomposition := union_namedBits_or_unnamedMask vocabulary mask
  have rest : vocabulary.unnamedMask mask = mask := by
    rw [noNames] at decomposition
    exact BitVec.zero_or.symm.trans decomposition
  rw [words, noNames, rest]
  rfl

theorem words_of_named {mask : Mask} (named : mask &&& vocabulary.namedMask ≠ 0) :
    ∃ entry ∈ vocabulary.entries, ∃ others, vocabulary.words mask = entry.name :: others := by
  have someName := mt namedBits_eq_nil_iff.mp named
  obtain ⟨entry, others, shape⟩ := List.exists_cons_of_ne_nil someName
  have printed : entry ∈ vocabulary.namedBits mask := by
    rw [shape]
    exact List.mem_cons_self
  refine ⟨entry, (mem_namedBits.mp printed).1, ?_⟩
  rw [words, shape]
  exact ⟨_, rfl⟩

/-! ## Single bits of a vocabulary -/

theorem eq_of_bit_eq {left right : NamedBit} (leftMember : left ∈ vocabulary.entries)
    (rightMember : right ∈ vocabulary.entries) (same : left.bit = right.bit) :
    left = right := by
  have distinctBits : (vocabulary.entries.map (·.bit)).Nodup :=
    List.pairwise_map.mpr (vocabulary.ascending.imp BitVec.ne_of_lt)
  exact List.inj_on_of_nodup_map distinctBits leftMember rightMember same

/-- A position at which one entry has its bit belongs to that entry alone. -/
theorem getLsbD_bit_iff {left right : NamedBit} (leftMember : left ∈ vocabulary.entries)
    (rightMember : right ∈ vocabulary.entries) {position : Fin 32}
    (rightBit : right.bit = BitVec.twoPow 32 position) :
    left.bit.getLsbD position = true ↔ left = right := by
  obtain ⟨leftPosition, leftBit⟩ := vocabulary.singleBits left leftMember
  constructor
  · intro isSet
    rw [leftBit, BitVec.getLsbD_twoPow, Bool.and_eq_true, decide_eq_true_eq,
      decide_eq_true_eq] at isSet
    have samePosition : leftPosition = position := Fin.ext isSet.2
    apply eq_of_bit_eq leftMember rightMember
    rw [leftBit, rightBit, samePosition]
  · intro same
    rw [same]
    simp [rightBit]

theorem bit_and_bit {left right : NamedBit} (leftMember : left ∈ vocabulary.entries)
    (rightMember : right ∈ vocabulary.entries) (different : left ≠ right) :
    left.bit &&& right.bit = 0 := by
  obtain ⟨position, rightBit⟩ := vocabulary.singleBits right rightMember
  have notSet : left.bit.getLsbD position ≠ true :=
    mt (getLsbD_bit_iff leftMember rightMember rightBit).mp different
  rw [rightBit, BitVec.and_twoPow, if_neg notSet]
  rfl

theorem bit_and_unnamedMask {entry : NamedBit} (member : entry ∈ vocabulary.entries)
    (mask : Mask) :
    entry.bit &&& vocabulary.unnamedMask mask = 0 := by
  by_contra shared
  obtain ⟨position, bitSet, restSet⟩ := Mask.and_ne_zero_iff.mp shared
  have alsoNamed : vocabulary.namedMask &&& vocabulary.unnamedMask mask ≠ 0 :=
    Mask.and_ne_zero_iff.mpr ⟨position, getLsbD_namedMask member bitSet, restSet⟩
  exact alsoNamed (namedMask_and_unnamedMask vocabulary mask)

theorem meets_twoPow (mask : Mask) (position : Fin 32) :
    mask.meets (BitVec.twoPow 32 position) = mask.getLsbD position := by
  have positive : BitVec.twoPow 32 position ≠ 0 := by
    intro zero
    have bitZero := congrArg (·.getLsbD position) zero
    simp at bitZero
  rw [Mask.meets, BitVec.and_twoPow]
  cases mask.getLsbD position with
  | true => exact bne_iff_ne.mpr positive
  | false => rfl

theorem eq_of_ascending {left right : List NamedBit}
    (leftAscending : left.Pairwise (·.bit < ·.bit))
    (rightAscending : right.Pairwise (·.bit < ·.bit))
    (sameMembers : ∀ entry, entry ∈ left ↔ entry ∈ right) :
    left = right := by
  have irreflexive : Std.Irrefl fun left right : NamedBit => left.bit < right.bit :=
    ⟨fun entry => BitVec.lt_irrefl entry.bit⟩
  have antisymmetric : Std.Antisymm fun left right : NamedBit => left.bit < right.bit :=
    ⟨fun _ _ below above => absurd above (BitVec.lt_asymm below)⟩
  exact leftAscending.eq_of_mem_iff rightAscending sameMembers

section

variable {chosen : List NamedBit} {rest : Mask}
  (listed : ∀ entry ∈ chosen, entry ∈ vocabulary.entries)
  (unnamed : rest &&& vocabulary.namedMask = 0)

include listed unnamed

theorem meets_union_or_iff {entry : NamedBit} (member : entry ∈ vocabulary.entries) :
    (Mask.union (chosen.map (·.bit)) ||| rest).meets entry.bit = true ↔ entry ∈ chosen := by
  obtain ⟨position, entryBit⟩ := vocabulary.singleBits entry member
  have isSet : entry.bit.getLsbD position = true :=
    (getLsbD_bit_iff member member entryBit).mpr rfl
  have namedHere : vocabulary.namedMask.getLsbD position = true :=
    getLsbD_namedMask member isSet
  have restHere : rest.getLsbD position = false := by
    have both : (rest &&& vocabulary.namedMask).getLsbD position = (0 : Mask).getLsbD position := by
      rw [unnamed]
    rw [BitVec.getLsbD_and, namedHere, Bool.and_true] at both
    exact both.trans BitVec.getLsbD_zero
  rw [entryBit, meets_twoPow, BitVec.getLsbD_or, restHere, Bool.or_false,
    getLsbD_union_bits_iff]
  constructor
  · intro someChosen
    rcases someChosen with ⟨other, inChosen, otherSet⟩
    have same : other = entry :=
      (getLsbD_bit_iff (listed other inChosen) member entryBit).mp otherSet
    rw [← same]
    exact inChosen
  · intro inChosen
    exact ⟨entry, inChosen, isSet⟩

theorem namedBits_union_or (ascending : chosen.Pairwise (·.bit < ·.bit)) :
    vocabulary.namedBits (Mask.union (chosen.map (·.bit)) ||| rest) = chosen := by
  apply eq_of_ascending (vocabulary.ascending.filter _) ascending
  intro entry
  rw [List.mem_filter]
  constructor
  · intro filtered
    rcases filtered with ⟨member, met⟩
    exact (meets_union_or_iff listed unnamed member).mp met
  · intro inChosen
    have member := listed entry inChosen
    exact ⟨member, (meets_union_or_iff listed unnamed member).mpr inChosen⟩

theorem unnamedMask_union_or :
    vocabulary.unnamedMask (Mask.union (chosen.map (·.bit)) ||| rest) = rest := by
  have chosenNamed : Mask.union (chosen.map (·.bit)) &&& ~~~vocabulary.namedMask = 0 := by
    apply BitVec.eq_of_getLsbD_eq
    intro position inRange
    rw [BitVec.getLsbD_and, BitVec.getLsbD_not]
    cases isSet : (Mask.union (chosen.map (·.bit))).getLsbD position with
    | false => simp
    | true =>
        rcases getLsbD_union_bits_iff.mp isSet with ⟨entry, inChosen, entrySet⟩
        have named : vocabulary.namedMask.getLsbD position = true :=
          getLsbD_namedMask (listed entry inChosen) entrySet
        simp [named]
  have restUnnamed : rest &&& ~~~vocabulary.namedMask = rest := by
    calc
      rest &&& ~~~vocabulary.namedMask
          = rest &&& vocabulary.namedMask ||| rest &&& ~~~vocabulary.namedMask := by
            rw [unnamed]
            exact BitVec.zero_or.symm
      _ = rest &&& (vocabulary.namedMask ||| ~~~vocabulary.namedMask) :=
            BitVec.and_or_distrib_left.symm
      _ = rest := by
            rw [BitVec.or_not_self, BitVec.and_allOnes]
  rw [unnamedMask, Mask.without, BitVec.and_or_distrib_right, chosenNamed, restUnnamed]
  exact BitVec.zero_or

end

end AccessMask.Vocabulary

namespace AccessMask.Declaration

/-! ## Names shared by the kinds of declaration -/

/-- A name that two kinds of declaration share stands for one bit. -/
theorem bit_eq_of_name_eq (left right : Declaration) :
    ∀ leftEntry ∈ left.modifiers.entries, ∀ rightEntry ∈ right.modifiers.entries,
      leftEntry.name = rightEntry.name → leftEntry.bit = rightEntry.bit := by
  cases left <;> cases right <;> decide

end AccessMask.Declaration
