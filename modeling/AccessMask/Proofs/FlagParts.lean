import AccessMask.FlagSet.Basic
import AccessMask.Proofs.NumeralTerms

/-!
# The parts of a flag set

A flag set is cut into its named bits and the rest of its mask. The parts share
no bit and make up the whole mask, and so do the class-file range, the two bits
above it and the bits without a name. The text for developers writes the parts
out, so it can be read back as the set.
-/

namespace AccessMask.FlagSet

variable (flags : FlagSet)

/-- Masks that share no bit and make up a whole. -/
structure IsSplit (parts : List Mask) (whole : Mask) : Prop where
  apart : parts.Pairwise fun left right => left &&& right = 0
  covers : Mask.union parts = whole

/-! ## Declared bits -/

/-- The bits at the positions that have a name. -/
def declaredBits : List Mask := (List.range 18).map (BitVec.twoPow 32)

/-- The named flags fill the lowest positions, one after the other. -/
theorem bits_eq_declaredBits : vocabulary.entries.map (·.bit) = declaredBits := by decide

theorem declaredBits_range : ∀ bit ∈ declaredBits, 0 < bit ∧ bit < 0x40000 :=
  List.all_iff_forall_prop.mp (by decide)

theorem mem_declaredBits_of_named : ∀ bit ∈ flags.named.map (·.bit), bit ∈ declaredBits := by
  rw [← bits_eq_declaredBits]
  have listed : flags.named ⊆ vocabulary.entries :=
    fun _ isNamed => (Vocabulary.mem_namedBits.mp isNamed).1
  exact List.map_subset _ listed

/-- Bits without a name lie above the declared ones. -/
theorem le_unknownBits (unknown : flags.unknownBits ≠ 0) : 0x40000 ≤ flags.unknownBits := by
  have apart := vocabulary.namedMask_and_unnamedMask flags.bits
  rw [namedMask_vocabulary] at apart
  have noLowBit : (2 ^ 18 - 1) &&& flags.unknownBits.toNat = 0 := congrArg BitVec.toNat apart
  rw [Nat.and_comm, Nat.and_two_pow_sub_one_eq_mod] at noLowBit
  have positive : flags.unknownBits.toNat ≠ 0 := by
    intro zero
    exact unknown (BitVec.eq_of_toNat_eq zero)
  rw [BitVec.le_def]
  change 2 ^ 18 ≤ flags.unknownBits.toNat
  omega

theorem unknownBits_not_declared : flags.unknownBits ∉ declaredBits := by
  intro declared
  obtain ⟨positive, below⟩ := declaredBits_range _ declared
  have unknown : flags.unknownBits ≠ 0 := (BitVec.ne_of_lt positive).symm
  exact BitVec.not_le.mpr below (flags.le_unknownBits unknown)

/-! ## Parts -/

theorem parts_of_known (known : flags.unknownBits = 0) :
    flags.parts = flags.named.map (·.bit) := by
  rw [parts, if_pos known, List.append_nil]

theorem parts_of_unknown (unknown : flags.unknownBits ≠ 0) :
    flags.parts = flags.named.map (·.bit) ++ [flags.unknownBits] := by
  rw [parts, if_neg unknown]

theorem named_ascending : flags.named.Pairwise (·.bit < ·.bit) := by
  rw [named, Vocabulary.namedBits]
  exact vocabulary.ascending.filter _

theorem parts_ascending : flags.parts.Pairwise (· < ·) := by
  have namedAscending : (flags.named.map (·.bit)).Pairwise (· < ·) :=
    List.pairwise_map.mpr flags.named_ascending
  by_cases known : flags.unknownBits = 0
  · rw [flags.parts_of_known known]
    exact namedAscending
  · rw [flags.parts_of_unknown known, List.pairwise_append]
    refine ⟨namedAscending, List.pairwise_singleton _ _, ?_⟩
    intro bit isNamed rest isRest
    rw [List.mem_singleton.mp isRest]
    have below := (declaredBits_range bit (flags.mem_declaredBits_of_named bit isNamed)).2
    exact Nat.lt_of_lt_of_le below (flags.le_unknownBits known)

theorem parts_apart : flags.parts.Pairwise fun left right => left &&& right = 0 := by
  have namedApart :
      (flags.named.map (·.bit)).Pairwise fun left right => left &&& right = 0 := by
    rw [List.pairwise_map]
    refine flags.named_ascending.imp_of_mem ?_
    intro left right leftNamed rightNamed below
    have different : left ≠ right := by
      rintro rfl
      exact BitVec.lt_irrefl _ below
    exact Vocabulary.bit_and_bit (Vocabulary.mem_namedBits.mp leftNamed).1
      (Vocabulary.mem_namedBits.mp rightNamed).1 different
  by_cases known : flags.unknownBits = 0
  · rw [flags.parts_of_known known]
    exact namedApart
  · rw [flags.parts_of_unknown known, List.pairwise_append]
    refine ⟨namedApart, List.pairwise_singleton _ _, ?_⟩
    intro bit isNamed rest isRest
    rw [List.mem_singleton.mp isRest]
    obtain ⟨entry, inNamed, rfl⟩ := List.mem_map.mp isNamed
    exact Vocabulary.bit_and_unnamedMask (Vocabulary.mem_namedBits.mp inNamed).1 flags.bits

theorem union_parts : Mask.union flags.parts = flags.bits := by
  have decomposition := vocabulary.union_namedBits_or_unnamedMask flags.bits
  by_cases known : flags.unknownBits = 0
  · have noRest : vocabulary.unnamedMask flags.bits = 0 := known
    rw [noRest] at decomposition
    rw [flags.parts_of_known known]
    exact BitVec.or_zero.symm.trans decomposition
  · rw [flags.parts_of_unknown known, Mask.union_append]
    simpa [Mask.union, named, unknownBits] using decomposition

theorem isSplit_parts : IsSplit flags.parts flags.bits :=
  ⟨flags.parts_apart, flags.union_parts⟩

theorem mem_dropLast_parts : ∀ part ∈ flags.parts.dropLast, part ∈ declaredBits := by
  intro part member
  by_cases known : flags.unknownBits = 0
  · rw [flags.parts_of_known known] at member
    exact flags.mem_declaredBits_of_named part (List.mem_of_mem_dropLast member)
  · rw [flags.parts_of_unknown known, List.dropLast_concat] at member
    exact flags.mem_declaredBits_of_named part member

theorem getLast?_parts_iff :
    flags.parts.getLast? = some flags.unknownBits ↔ flags.unknownBits ≠ 0 := by
  constructor
  · intro last known
    rw [flags.parts_of_known known] at last
    exact flags.unknownBits_not_declared
      (flags.mem_declaredBits_of_named _ (List.mem_of_getLast? last))
  · intro unknown
    rw [flags.parts_of_unknown unknown, List.getLast?_concat]

theorem filter_parts :
    flags.parts.filter (· ∈ declaredBits) = flags.named.map (·.bit) := by
  have allNamed :
      (flags.named.map (·.bit)).filter (· ∈ declaredBits) = flags.named.map (·.bit) := by
    rw [List.filter_eq_self]
    exact fun bit isNamed => decide_eq_true (flags.mem_declaredBits_of_named bit isNamed)
  by_cases known : flags.unknownBits = 0
  · rw [flags.parts_of_known known, allNamed]
  · rw [flags.parts_of_unknown known, List.filter_append, allNamed]
    simp [flags.unknownBits_not_declared]

theorem ofName?_named : ∀ entry ∈ flags.named, ofName? entry.name = some ⟨entry.bit⟩ := by
  intro entry isNamed
  rw [ofName?, Vocabulary.bit?_eq_some_iff.mpr (Vocabulary.mem_namedBits.mp isNamed).1]
  rfl

/-! ## Ranges -/

theorem and_apart {left right : Mask} (apart : left &&& right = 0) (mask : Mask) :
    (mask &&& left) &&& (mask &&& right) = 0 := by
  by_contra shared
  obtain ⟨position, leftSet, rightSet⟩ := Mask.and_ne_zero_iff.mp shared
  rw [BitVec.getLsbD_and, Bool.and_eq_true] at leftSet rightSet
  exact Mask.and_ne_zero_iff.mpr ⟨position, leftSet.2, rightSet.2⟩ apart

theorem isSplit_ranges :
    IsSplit [flags.fileBits, flags.bits &&& 0x30000, flags.unknownBits] flags.bits := by
  have fileApart : Mask.fileRange &&& 0x30000 = 0 := by decide
  have fileNamed : Mask.fileRange &&& ~~~vocabulary.namedMask = 0 := by decide
  have aboveNamed : 0x30000 &&& ~~~vocabulary.namedMask = 0 := by decide
  have named : Mask.fileRange ||| 0x30000 = vocabulary.namedMask := by decide
  constructor
  · simp only [List.pairwise_cons, List.mem_cons, List.not_mem_nil, or_false, forall_eq_or_imp,
      forall_eq, IsEmpty.forall_iff, implies_true, List.Pairwise.nil, and_true]
    exact ⟨⟨and_apart fileApart flags.bits, and_apart fileNamed flags.bits⟩,
      and_apart aboveNamed flags.bits⟩
  · calc
      Mask.union [flags.fileBits, flags.bits &&& 0x30000, flags.unknownBits]
          = (flags.bits &&& Mask.fileRange ||| flags.bits &&& 0x30000) |||
              flags.bits &&& ~~~vocabulary.namedMask := by
            simp [Mask.union, fileBits, unknownBits, Vocabulary.unnamedMask, Mask.without,
              BitVec.or_assoc]
      _ = flags.bits &&& vocabulary.namedMask ||| flags.bits &&& ~~~vocabulary.namedMask := by
            rw [← BitVec.and_or_distrib_left, named]
      _ = flags.bits := by
            rw [← BitVec.and_or_distrib_left, BitVec.or_not_self, BitVec.and_allOnes]

/-! ## Reading the text for developers -/

/-- The mask that a word of the text stands for: a numeral for its number, a
name for its bit. -/
def wordMask? (word : String) : Option Mask :=
  if Expression.startsWithDigit word then Literal.read? word else (ofName? word).map (·.bits)

/-- The set whose text for developers is given: the union of what the words
between the brackets stand for. -/
def ofDebugText? (text : String) : Option FlagSet :=
  let inside := (text.toList.drop "AccessFlags(".length).dropLast
  ((Expression.terms (String.ofList inside)).mapM wordMask?).map fun masks => ⟨Mask.union masks⟩

/-- The words between the brackets of the text. -/
def debugWords : List String :=
  if flags.isEmpty then [Numeral.hex 0] else vocabulary.words flags.bits

theorem isWord_name :
    ∀ entry ∈ vocabulary.entries,
      Expression.IsWord entry.name ∧ Expression.startsWithDigit entry.name = false := by
  decide

theorem isWord_of_mem_debugWords : ∀ word ∈ flags.debugWords, Expression.IsWord word := by
  rw [debugWords]
  split
  case isTrue => exact List.forall_mem_singleton.mpr (Numeral.Form.hex.isWord_write 0)
  case isFalse =>
    have names : ∀ entry ∈ vocabulary.entries, Expression.IsWord entry.name :=
      fun entry listed => (isWord_name entry listed).1
    exact Vocabulary.forall_words names (Numeral.Form.hex.isWord_write _)

theorem wordMask?_hex (mask : Mask) : wordMask? (Numeral.hex mask) = some mask := by
  have digit : Expression.startsWithDigit (Numeral.hex mask) = true :=
    Numeral.Form.hex.startsWithDigit_write mask
  rw [wordMask?, if_pos digit, Literal.read?_eq_some_iff, ← Literal.read_eq_ok_iff]
  exact Numeral.read_hex mask

theorem wordMask?_name {entry : NamedBit} (isNamed : entry ∈ flags.named) :
    wordMask? entry.name = some entry.bit := by
  have noDigit := (isWord_name entry (Vocabulary.mem_namedBits.mp isNamed).1).2
  rw [wordMask?, noDigit, flags.ofName?_named entry isNamed]
  rfl

theorem exists_masks_of_debugWords :
    ∃ masks,
      List.Forall₂ (fun word mask => wordMask? word = some mask) flags.debugWords masks ∧
        Mask.union masks = flags.bits := by
  rw [debugWords]
  split
  case isTrue isEmpty =>
    have noBit : flags.bits = 0 := beq_iff_eq.mp isEmpty
    exact ⟨[0], .cons (wordMask?_hex 0) .nil, noBit.symm⟩
  case isFalse =>
    exact vocabulary.forall₂_words flags.bits (fun _ => flags.wordMask?_name) (wordMask?_hex _)

theorem mapM_wordMask? {words : List String} {masks : List Mask}
    (standFor : List.Forall₂ (fun word mask => wordMask? word = some mask) words masks) :
    words.mapM wordMask? = some masks := by
  induction standFor with
  | nil => rfl
  | cons first _ inductionHypothesis => simp [first, inductionHypothesis]

theorem ofDebugText?_debugText : ofDebugText? flags.debugText = some flags := by
  have inside :
      (flags.debugText.toList.drop "AccessFlags(".length).dropLast =
        (" | ".intercalate flags.debugWords).toList := by
    have characters :
        flags.debugText.toList =
          "AccessFlags(".toList ++ ((" | ".intercalate flags.debugWords).toList ++ [')']) := by
      simp [debugText, debugWords]
    rw [characters, ← String.length_toList, List.drop_left, List.dropLast_concat]
  obtain ⟨masks, standFor, whole⟩ := flags.exists_masks_of_debugWords
  have words : Expression.terms (" | ".intercalate flags.debugWords) = flags.debugWords :=
    Expression.terms_intercalate (by decide) flags.isWord_of_mem_debugWords
  simp only [ofDebugText?, inside, String.ofList_toList, words, mapM_wordMask? standFor,
    Option.map_some, whole]

/-- The parts of a flag set ascend, share no bit and make up its mask. All but
the last are declared bits, and the last is what has no name, if there is such a
rest. The named flags are the declared parts, each under a name that gives it
back. The class-file range, the two bits above it and the rest split the mask
as well. And the set can be read back from its text. -/
theorem parts_lossless :
    flags.parts.Pairwise (· < ·) ∧
      IsSplit flags.parts flags.bits ∧
      (∀ part ∈ flags.parts.dropLast, part ∈ declaredBits) ∧
      (flags.parts.getLast? = some flags.unknownBits ↔ flags.unknownBits ≠ 0) ∧
      (flags.unknownBits = 0 → ∀ part ∈ flags.parts, part ∈ declaredBits) ∧
      flags.named.map (·.bit) = flags.parts.filter (· ∈ declaredBits) ∧
      (∀ entry ∈ flags.named, ofName? entry.name = some ⟨entry.bit⟩) ∧
      IsSplit [flags.fileBits, flags.bits &&& 0x30000, flags.unknownBits] flags.bits ∧
      ofDebugText? flags.debugText = some flags ∧
      ∀ other : FlagSet, other.debugText = flags.debugText → other = flags := by
  refine ⟨flags.parts_ascending, flags.isSplit_parts, flags.mem_dropLast_parts,
    flags.getLast?_parts_iff, ?_, flags.filter_parts.symm, flags.ofName?_named,
    flags.isSplit_ranges, flags.ofDebugText?_debugText, ?_⟩
  · intro known
    rw [flags.parts_of_known known]
    exact flags.mem_declaredBits_of_named
  · intro other same
    have readSame := other.ofDebugText?_debugText
    rw [same, flags.ofDebugText?_debugText, Option.some.injEq] at readSame
    exact readSame.symm

theorem parts_lossless_record :
    unknownBits ⟨0x80050011⟩ = 0x80040000 ∧
      0x10000 ∈ declaredBits ∧
      (parts ⟨0x80050011⟩).getLast? = some (unknownBits ⟨0x80050011⟩) ∧
      ofName? "RECORD" = some ⟨Mask.accRecord⟩ ∧
      (∀ other : FlagSet,
        other.debugText = "AccessFlags(PUBLIC | FINAL | RECORD | 0x80040000)" →
          other = ⟨0x80050011⟩) ∧
      ∀ part ∈ parts ⟨0x20041⟩, part ∈ declaredBits := by
  have text :
      debugText ⟨0x80050011⟩ = "AccessFlags(PUBLIC | FINAL | RECORD | 0x80040000)" := by
    decide
  obtain ⟨_, _, declared, last, _, _, names, _, _, unique⟩ := parts_lossless ⟨0x80050011⟩
  obtain ⟨_, _, _, _, allDeclared, _⟩ := parts_lossless ⟨0x20041⟩
  rw [text] at unique
  exact ⟨by decide, declared 0x10000 (by decide), last.mpr (by decide),
    names ⟨"RECORD", Mask.accRecord⟩ (by decide), unique, allDeclared (by decide)⟩

end AccessMask.FlagSet
