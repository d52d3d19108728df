import AccessMask.Proofs.PredicateSources

/-!
# What the predicates reveal

Every predicate asks for one bit of the mask, and two of them ask for the
absence of a bit that another one asks for. So the answers of a report tell
five bits of its mask. They tell nothing else about it, neither the other bits
nor the kind of declaration nor the way in which the mask arrived.
-/

namespace AccessMask.Mask

/-! ## Masks that agree on some bits -/

theorem union_and_of_mem {bits : List Mask} {bit : Mask} (member : bit ∈ bits) :
    union bits &&& bit = bit := by
  apply BitVec.eq_of_getLsbD_eq
  intro position _
  rw [BitVec.getLsbD_and, Vocabulary.getLsbD_union]
  by_cases isSet : bit.getLsbD position = true
  · have someSet : bits.any (·.getLsbD position) = true :=
      List.any_eq_true.mpr ⟨bit, member, isSet⟩
    rw [someSet, isSet]
    rfl
  · rw [Bool.not_eq_true] at isSet
    rw [isSet, Bool.and_false]

theorem and_union (mask : Mask) (bits : List Mask) :
    mask &&& union bits = union (bits.map (mask &&& ·)) := by
  induction bits with
  | nil => exact BitVec.and_zero
  | cons bit rest inductionHypothesis =>
      rw [union, BitVec.and_or_distrib_left, inductionHypothesis]
      rfl

/-- Masks agree on a union of single bits if they have the same ones of them. -/
theorem and_union_eq_iff {bits : List Mask} {left right : Mask}
    (single : ∀ bit ∈ bits, ∃ position : Fin 32, bit = BitVec.twoPow 32 position) :
    left &&& union bits = right &&& union bits ↔
      ∀ bit ∈ bits, left.meets bit = right.meets bit := by
  constructor
  · intro same bit member
    have absorbed := union_and_of_mem member
    have sameBit : left &&& bit = right &&& bit := by
      rw [← absorbed, ← BitVec.and_assoc, ← BitVec.and_assoc, same]
    rw [meets, meets, sameBit]
  · intro sameBits
    rw [and_union, and_union]
    apply congrArg union
    apply List.map_congr_left
    intro bit member
    rw [Vocabulary.and_singleBit (single bit member) left,
      Vocabulary.and_singleBit (single bit member) right, sameBits bit member]

end AccessMask.Mask

namespace AccessMask.Inspection

open Mask

/-! ## The bits that predicates ask for -/

/-- The bit of every predicate, in the order of the predicates. -/
def Predicate.bits : List Mask := all.map (·.modifier.bit)

/-- A type has all the modifiers that predicates ask for. -/
theorem Predicate.modifier_mem (predicate : Predicate) :
    predicate.modifier ∈ Declaration.type.modifiers.entries := by
  cases predicate <;> decide

theorem Predicate.singleBits :
    ∀ bit ∈ bits, ∃ position : Fin 32, bit = BitVec.twoPow 32 position := by
  intro bit member
  obtain ⟨predicate, _, rfl⟩ := List.mem_map.mp member
  exact Declaration.type.modifiers.singleBits predicate.modifier predicate.modifier_mem

theorem Predicate.union_bits : union bits = 0x61A := by
  decide

theorem satisfies_eq_iff (left right : Inspection) (predicate : Predicate) :
    left.satisfies predicate = right.satisfies predicate ↔
      left.mask.meets predicate.modifier.bit = right.mask.meets predicate.modifier.bit := by
  cases predicate with
  | isNotPrivate | isNotStatic => exact Bool.not_inj_iff
  | isPrivate | isFinal | isAbstract | isInterface | isStatic => exact Iff.rfl

theorem forall_satisfies_eq_iff (left right : Inspection) :
    (∀ predicate, left.satisfies predicate = right.satisfies predicate) ↔
      left.mask &&& 0x61A = right.mask &&& 0x61A := by
  rw [← Predicate.union_bits, and_union_eq_iff Predicate.singleBits]
  constructor
  · intro sameAnswers bit member
    obtain ⟨predicate, _, rfl⟩ := List.mem_map.mp member
    exact (satisfies_eq_iff left right predicate).mp (sameAnswers predicate)
  · intro sameBits predicate
    apply (satisfies_eq_iff left right predicate).mpr
    apply sameBits
    exact List.mem_map_of_mem predicate.mem_all

/-! ## Answers -/

theorem map_verdicts (inspection : Inspection) :
    inspection.verdicts.map (·.2) = Predicate.all.map inspection.satisfies := by
  rw [verdicts, List.map_map]
  rfl

theorem map_verdicts_eq_iff (left right : Inspection) :
    left.verdicts.map (·.2) = right.verdicts.map (·.2) ↔
      ∀ predicate, left.satisfies predicate = right.satisfies predicate := by
  rw [map_verdicts, map_verdicts, List.map_inj_left]
  constructor
  · intro sameListed predicate
    exact sameListed predicate predicate.mem_all
  · intro same predicate _
    exact same predicate

/-- The answers of two reports are the same exactly if their masks agree on five
bits, whatever the kinds of declaration and the ways in which the masks
arrived. -/
theorem answers_reveal_five_bits (leftDeclaration rightDeclaration : Declaration)
    (leftOrigin rightOrigin : Origin) (left right : Mask) :
    let fiveBits := union [accPrivate, accStatic, accFinal, accInterface, accAbstract]
    fiveBits = 0x61A ∧
      ((Report.verdicts ⟨leftDeclaration, ofOrigin leftOrigin left⟩).map (·.2) =
          (Report.verdicts ⟨rightDeclaration, ofOrigin rightOrigin right⟩).map (·.2) ↔
        left &&& fiveBits = right &&& fiveBits) := by
  have fiveBits_eq :
      union [accPrivate, accStatic, accFinal, accInterface, accAbstract] = 0x61A := by
    decide
  intro fiveBits
  refine ⟨fiveBits_eq, ?_⟩
  rw [Report.verdicts, Report.verdicts, map_verdicts_eq_iff, forall_satisfies_eq_iff,
    mask_ofOrigin, mask_ofOrigin, ← fiveBits_eq]

end AccessMask.Inspection
