import AccessMask.Declaration
import AccessMask.FlagSet.Basic

/-!
# Inspections

An inspection answers yes-or-no questions about the flags of a declaration. It
looks at the bits alone: neither the kind of the declaration nor the way in
which the mask arrived changes an answer.
-/

namespace AccessMask

/-- A mask that was read and is ready to be asked about. -/
structure Inspection where
  flags : FlagSet
  deriving DecidableEq, Repr

namespace Inspection

/-! ## Construction -/

/-- The inspection of a bare mask. -/
def ofMask (mask : Mask) : Inspection := ⟨⟨mask⟩⟩

/-- The inspection of a flag set. -/
def ofFlagSet (flags : FlagSet) : Inspection := ⟨flags⟩

/-- The inspection of a mask read from a type. -/
def ofType (mask : Mask) : Inspection := ofMask mask

/-- The inspection of a mask read from a field. -/
def ofField (mask : Mask) : Inspection := ofMask mask

/-- The inspection of a mask read from a method. -/
def ofMethod (mask : Mask) : Inspection := ofMask mask

/-- The inspection of a mask read from a declaration of some kind. -/
def ofDeclaration : Declaration → Mask → Inspection
  | .type, mask => ofType mask
  | .field, mask => ofField mask
  | .method, mask => ofMethod mask

/-- The ways in which a mask arrives. -/
inductive Origin where
  | mask
  | flagSet
  | type
  | field
  | method
  | declaration (declaration : Declaration)
  deriving DecidableEq, Repr

/-- The inspection of a mask that arrives in a given way. -/
def ofOrigin : Origin → Mask → Inspection
  | .mask, mask => ofMask mask
  | .flagSet, mask => ofFlagSet ⟨mask⟩
  | .type, mask => ofType mask
  | .field, mask => ofField mask
  | .method, mask => ofMethod mask
  | .declaration declaration, mask => ofDeclaration declaration mask

/-! ## The mask -/

/-- The mask as it arrived. -/
def mask (inspection : Inspection) : Mask := inspection.flags.bits

@[simp]
theorem mask_ofOrigin (origin : Origin) (mask : Mask) :
    (ofOrigin origin mask).mask = mask := by
  cases origin with
  | declaration declaration => cases declaration <;> rfl
  | mask | flagSet | type | field | method => rfl

@[simp]
theorem mask_ofDeclaration (declaration : Declaration) (mask : Mask) :
    (ofDeclaration declaration mask).mask = mask := by
  cases declaration <;> rfl

/-- True when some bit of the given mask is set. -/
def includes (inspection : Inspection) (mask : Mask) : Bool :=
  inspection.mask.meets mask

/-- The mask in padded hexadecimal, for a developer to look at. -/
def debugText (inspection : Inspection) : String :=
  "AccessFlagQuery(" ++ Numeral.paddedHex inspection.mask ++ ")"

/-! ## Predicates -/

/-- The questions that an inspection answers. -/
inductive Predicate where
  | isPrivate
  | isNotPrivate
  | isFinal
  | isAbstract
  | isInterface
  | isStatic
  | isNotStatic
  deriving DecidableEq, Repr

/-- Every predicate, in the order in which they are listed. -/
def Predicate.all : List Predicate :=
  [.isPrivate, .isNotPrivate, .isFinal, .isAbstract, .isInterface, .isStatic, .isNotStatic]

/-- The name under which a predicate is reported. -/
def Predicate.name : Predicate → String
  | .isPrivate => "is_private"
  | .isNotPrivate => "is_not_private"
  | .isFinal => "is_final"
  | .isAbstract => "is_abstract"
  | .isInterface => "is_interface"
  | .isStatic => "is_static"
  | .isNotStatic => "is_not_static"

/-- The answer to a predicate. -/
def satisfies (inspection : Inspection) : Predicate → Bool
  | .isPrivate => inspection.includes Mask.accPrivate
  | .isNotPrivate => !inspection.includes Mask.accPrivate
  | .isFinal => inspection.includes Mask.accFinal
  | .isAbstract => inspection.includes Mask.accAbstract
  | .isInterface => inspection.includes Mask.accInterface
  | .isStatic => inspection.includes Mask.accStatic
  | .isNotStatic => !inspection.includes Mask.accStatic

/-- Every predicate by name, with its answer. -/
def verdicts (inspection : Inspection) : List (String × Bool) :=
  Predicate.all.map fun predicate => (predicate.name, inspection.satisfies predicate)

end Inspection

end AccessMask
