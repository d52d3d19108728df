import AccessMask.Declaration
import AccessMask.Vocabulary

/-!
# The modifiers of a declaration

Each kind of declaration has a vocabulary of its own. A bit that several kinds
name may have a different name in each.
-/

namespace AccessMask.Declaration

/-- The modifiers of a kind of declaration. -/
def modifiers : Declaration → Vocabulary
  | .type =>
      { entries :=
          [⟨"public", Mask.accPublic⟩,
            ⟨"private", Mask.accPrivate⟩,
            ⟨"protected", Mask.accProtected⟩,
            ⟨"static", Mask.accStatic⟩,
            ⟨"final", Mask.accFinal⟩,
            ⟨"super", Mask.accSuper⟩,
            ⟨"interface", Mask.accInterface⟩,
            ⟨"abstract", Mask.accAbstract⟩,
            ⟨"synthetic", Mask.accSynthetic⟩,
            ⟨"annotation", Mask.accAnnotation⟩,
            ⟨"enum", Mask.accEnum⟩,
            ⟨"module", Mask.accModule⟩,
            ⟨"record", Mask.accRecord⟩,
            ⟨"deprecated", Mask.accDeprecated⟩] }
  | .field =>
      { entries :=
          [⟨"public", Mask.accPublic⟩,
            ⟨"private", Mask.accPrivate⟩,
            ⟨"protected", Mask.accProtected⟩,
            ⟨"static", Mask.accStatic⟩,
            ⟨"final", Mask.accFinal⟩,
            ⟨"volatile", Mask.accVolatile⟩,
            ⟨"transient", Mask.accTransient⟩,
            ⟨"synthetic", Mask.accSynthetic⟩,
            ⟨"enum", Mask.accEnum⟩,
            ⟨"deprecated", Mask.accDeprecated⟩] }
  | .method =>
      { entries :=
          [⟨"public", Mask.accPublic⟩,
            ⟨"private", Mask.accPrivate⟩,
            ⟨"protected", Mask.accProtected⟩,
            ⟨"static", Mask.accStatic⟩,
            ⟨"final", Mask.accFinal⟩,
            ⟨"synchronized", Mask.accSynchronized⟩,
            ⟨"bridge", Mask.accBridge⟩,
            ⟨"varargs", Mask.accVarargs⟩,
            ⟨"native", Mask.accNative⟩,
            ⟨"abstract", Mask.accAbstract⟩,
            ⟨"strict", Mask.accStrict⟩,
            ⟨"synthetic", Mask.accSynthetic⟩,
            ⟨"deprecated", Mask.accDeprecated⟩] }

end AccessMask.Declaration
