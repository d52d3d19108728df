import AccessMask.Vocabulary

/-!
# Flag sets

A flag set is a mask seen as a set of eighteen flags with names. Bits without a
name are kept: only the complement, and what is asked for explicitly, cuts a
set down to its named bits.
-/

namespace AccessMask

/-- A mask seen as a set of flags. -/
structure FlagSet where
  bits : Mask
  deriving DecidableEq, Repr

namespace FlagSet

/-- The flags with a name. A bit with several readings has the name that it has
on a type or a field. -/
def vocabulary : Vocabulary where
  entries :=
    [⟨"PUBLIC", Mask.accPublic⟩,
      ⟨"PRIVATE", Mask.accPrivate⟩,
      ⟨"PROTECTED", Mask.accProtected⟩,
      ⟨"STATIC", Mask.accStatic⟩,
      ⟨"FINAL", Mask.accFinal⟩,
      ⟨"SUPER", Mask.accSuper⟩,
      ⟨"VOLATILE", Mask.accVolatile⟩,
      ⟨"TRANSIENT", Mask.accTransient⟩,
      ⟨"NATIVE", Mask.accNative⟩,
      ⟨"INTERFACE", Mask.accInterface⟩,
      ⟨"ABSTRACT", Mask.accAbstract⟩,
      ⟨"STRICT", Mask.accStrict⟩,
      ⟨"SYNTHETIC", Mask.accSynthetic⟩,
      ⟨"ANNOTATION", Mask.accAnnotation⟩,
      ⟨"ENUM", Mask.accEnum⟩,
      ⟨"MODULE", Mask.accModule⟩,
      ⟨"RECORD", Mask.accRecord⟩,
      ⟨"DEPRECATED", Mask.accDeprecated⟩]

theorem namedMask_vocabulary : vocabulary.namedMask = 0x3FFFF := by decide

/-! ## Construction -/

/-- The set without any bit. -/
def empty : FlagSet := ⟨0⟩

/-- The set of all the named flags and nothing else. -/
def all : FlagSet := ⟨vocabulary.namedMask⟩

/-- The set with the bits of a mask, if every bit has a name. -/
def ofMask? (mask : Mask) : Option FlagSet :=
  if vocabulary.unnamedMask mask = 0 then some ⟨mask⟩ else none

/-- The set with the named bits of a mask. -/
def ofNamedBits (mask : Mask) : FlagSet := ⟨mask &&& vocabulary.namedMask⟩

/-- The set with the one flag of a name. -/
def ofName? (name : String) : Option FlagSet :=
  (vocabulary.bit? name).map (⟨·⟩)

/-! ## Algebra -/

/-- The bits of either set. -/
def union (left right : FlagSet) : FlagSet := ⟨left.bits ||| right.bits⟩

/-- The bits that both sets have. -/
def inter (left right : FlagSet) : FlagSet := ⟨left.bits &&& right.bits⟩

/-- The bits of the first set that the second does not have. -/
def diff (left right : FlagSet) : FlagSet := ⟨left.bits.without right.bits⟩

/-- The bits that one of the two sets has. -/
def symmDiff (left right : FlagSet) : FlagSet := ⟨left.bits ^^^ right.bits⟩

/-- The named flags that a set does not have. -/
def compl (flags : FlagSet) : FlagSet := ofNamedBits (~~~flags.bits)

/-! ## Questions -/

/-- True when the first set has every bit of the second. -/
def contains (flags part : FlagSet) : Bool := flags.bits &&& part.bits == part.bits

/-- True when the two sets share a bit. -/
def intersects (left right : FlagSet) : Bool := left.bits.meets right.bits

/-- True of the set without any bit. -/
def isEmpty (flags : FlagSet) : Bool := flags.bits == 0

/-- True of a set that has every named flag, whatever else it has. -/
def isAll (flags : FlagSet) : Bool := flags.contains all

/-- Sets are ordered as numbers. -/
def compare (left right : FlagSet) : Ordering :=
  Ord.compare left.bits.toNat right.bits.toNat

/-- The bits inside the class-file range. -/
def fileBits (flags : FlagSet) : Mask := flags.bits &&& Mask.fileRange

/-- The bits without a name. -/
def unknownBits (flags : FlagSet) : Mask := vocabulary.unnamedMask flags.bits

/-! ## Members -/

/-- The named flags of a set, from the lowest bit up. -/
def named (flags : FlagSet) : List NamedBit := vocabulary.namedBits flags.bits

/-- The parts of a set: its named bits one by one, from the lowest up, then all
the bits without a name as one mask. -/
def parts (flags : FlagSet) : List Mask :=
  flags.named.map (·.bit) ++ if flags.unknownBits = 0 then [] else [flags.unknownBits]

/-- The words of a set with bars between them, for a developer to look at. The
empty set is shown as the number zero. -/
def debugText (flags : FlagSet) : String :=
  let words := if flags.isEmpty then [Numeral.hex 0] else vocabulary.words flags.bits
  "AccessFlags(" ++ " | ".intercalate words ++ ")"

example : debugText ⟨0x40011⟩ = "AccessFlags(PUBLIC | FINAL | 0x40000)" := by decide

example : debugText empty = "AccessFlags(0x0)" := by decide

end FlagSet

end AccessMask
