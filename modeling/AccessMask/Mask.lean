/-!
# Access masks

A mask holds the access flags of one declaration in a class file, one bit per
flag. The class-file format gives a meaning to the lower sixteen bits; readers
of class files put two flags of their own above them.
-/

namespace AccessMask

/-- Thirty-two access bits. Every combination of bits is a mask. -/
abbrev Mask := BitVec 32

namespace Mask

/-! ## The bits of the class-file format

Three bits have two readings, which depend on the declaration that carries
them, so the two names stand for one value.
-/

def accPublic : Mask := 0x0001
def accPrivate : Mask := 0x0002
def accProtected : Mask := 0x0004
def accStatic : Mask := 0x0008
def accFinal : Mask := 0x0010
def accSuper : Mask := 0x0020
def accSynchronized : Mask := 0x0020
def accVolatile : Mask := 0x0040
def accBridge : Mask := 0x0040
def accTransient : Mask := 0x0080
def accVarargs : Mask := 0x0080
def accNative : Mask := 0x0100
def accInterface : Mask := 0x0200
def accAbstract : Mask := 0x0400
def accStrict : Mask := 0x0800
def accSynthetic : Mask := 0x1000
def accAnnotation : Mask := 0x2000
def accEnum : Mask := 0x4000
def accModule : Mask := 0x8000
def accMandated : Mask := 0x8000

/-! ## The bits above the class-file range -/

/-- Set on a record type. -/
def accRecord : Mask := 0x10000

/-- Set on a declaration that is marked as deprecated. -/
def accDeprecated : Mask := 0x20000

/-- The range of the class-file format: the lower sixteen bits. -/
def fileRange : Mask := 0xFFFF

/-- Every constant under its published name, by value, a shared bit once for
each of its readings, and the class-file range at the end. -/
def constants : List (String × Mask) :=
  [("ACC_PUBLIC", accPublic),
    ("ACC_PRIVATE", accPrivate),
    ("ACC_PROTECTED", accProtected),
    ("ACC_STATIC", accStatic),
    ("ACC_FINAL", accFinal),
    ("ACC_SUPER", accSuper),
    ("ACC_SYNCHRONIZED", accSynchronized),
    ("ACC_VOLATILE", accVolatile),
    ("ACC_BRIDGE", accBridge),
    ("ACC_TRANSIENT", accTransient),
    ("ACC_VARARGS", accVarargs),
    ("ACC_NATIVE", accNative),
    ("ACC_INTERFACE", accInterface),
    ("ACC_ABSTRACT", accAbstract),
    ("ACC_STRICT", accStrict),
    ("ACC_SYNTHETIC", accSynthetic),
    ("ACC_ANNOTATION", accAnnotation),
    ("ACC_ENUM", accEnum),
    ("ACC_MODULE", accModule),
    ("ACC_MANDATED", accMandated),
    ("ACC_RECORD", accRecord),
    ("ACC_DEPRECATED", accDeprecated),
    ("ACC_FILE_MASK", fileRange)]

/-- The union of a list of masks. -/
def union : List Mask → Mask
  | [] => 0
  | mask :: rest => mask ||| union rest

theorem union_append (left right : List Mask) :
    union (left ++ right) = union left ||| union right := by
  induction left with
  | nil => simp [union]
  | cons mask rest inductionHypothesis =>
      simp [union, inductionHypothesis, BitVec.or_assoc]

/-- True when two masks share a bit. -/
def meets (left right : Mask) : Bool := left &&& right != 0

/-- The bits of the first mask that the second does not have. -/
def without (mask removed : Mask) : Mask := mask &&& ~~~removed

end Mask

end AccessMask
