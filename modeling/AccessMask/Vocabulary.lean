import AccessMask.Numeral

/-!
# Vocabularies

A vocabulary gives names to some of the bits of a mask. In its words a mask is
the names of its named bits, from the lowest bit up, and one hexadecimal
numeral for all the other bits, if there are any.
-/

namespace AccessMask

/-- A bit of a mask and its name. -/
structure NamedBit where
  name : String
  bit : Mask
  deriving DecidableEq, Repr

/-- Named bits in ascending order. Each is a single bit, and no name stands for
two of them. -/
structure Vocabulary where
  entries : List NamedBit
  ascending : entries.Pairwise (·.bit < ·.bit) := by decide
  singleBits :
    ∀ entry ∈ entries, ∃ position : Fin 32, entry.bit = BitVec.twoPow 32 position := by decide
  distinctNames : (entries.map (·.name)).Nodup := by decide

namespace Vocabulary

/-- The bit of a name. Case matters. -/
def bit? (vocabulary : Vocabulary) (name : String) : Option Mask :=
  (vocabulary.entries.find? (·.name = name)).map (·.bit)

/-- All the bits that have a name. -/
def namedMask (vocabulary : Vocabulary) : Mask :=
  Mask.union (vocabulary.entries.map (·.bit))

/-- The named bits of a mask, from the lowest up. -/
def namedBits (vocabulary : Vocabulary) (mask : Mask) : List NamedBit :=
  vocabulary.entries.filter fun entry => mask.meets entry.bit

/-- The bits of a mask that have no name. -/
def unnamedMask (vocabulary : Vocabulary) (mask : Mask) : Mask :=
  mask.without vocabulary.namedMask

/-- The words of a mask: the names of its bits, then its unnamed bits as one
hexadecimal numeral. -/
def words (vocabulary : Vocabulary) (mask : Mask) : List String :=
  let rest := vocabulary.unnamedMask mask
  (vocabulary.namedBits mask).map (·.name) ++
    if rest = 0 then [] else [Numeral.hex rest]

theorem mem_namedBits {vocabulary : Vocabulary} {mask : Mask} {entry : NamedBit} :
    entry ∈ vocabulary.namedBits mask ↔
      entry ∈ vocabulary.entries ∧ mask.meets entry.bit = true := by
  simp [namedBits]

theorem namedMask_and_unnamedMask (vocabulary : Vocabulary) (mask : Mask) :
    vocabulary.namedMask &&& vocabulary.unnamedMask mask = 0 := by
  ext position
  simp only [unnamedMask, Mask.without, BitVec.getElem_and, BitVec.getElem_not]
  cases vocabulary.namedMask[position] <;> simp

end Vocabulary

end AccessMask
