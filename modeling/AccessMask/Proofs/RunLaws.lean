import AccessMask.FlagSet.Run
import Mathlib.Data.List.DropRight
import Mathlib.Data.List.Forall2
import Mathlib.Data.Set.Defs

/-!
# Laws of runs over a flag set

A change works on every bit of a flag set alone. So a bit without a name, once
it is set, was put there by some step, as long as no step started over; and two
runs that look alike at some positions go on looking alike there.
-/

namespace AccessMask.FlagSet

/-! ## One bit of a set -/

/-- What a change makes of the bit at a position. -/
def Change.bit (position : Nat) (before : Bool) : Change → Bool
  | .insert part => before || part.bits.getLsbD position
  | .remove part => before && !part.bits.getLsbD position
  | .toggle part => before ^^ part.bits.getLsbD position
  | .set part present =>
      if present then before || part.bits.getLsbD position
      else before && !part.bits.getLsbD position
  | .union part => before || part.bits.getLsbD position
  | .inter part => before && part.bits.getLsbD position
  | .diff part => before && !part.bits.getLsbD position
  | .symmDiff part => before ^^ part.bits.getLsbD position
  | .compl => !before && vocabulary.namedMask.getLsbD position
  | .clear => false
  | .fill => vocabulary.namedMask.getLsbD position

theorem getLsbD_without (mask removed : Mask) (position : Nat) :
    (mask.without removed).getLsbD position =
      (mask.getLsbD position && !removed.getLsbD position) := by
  rw [Mask.without, BitVec.getLsbD_and, BitVec.getLsbD_not]
  cases isSet : mask.getLsbD position with
  | false => rfl
  | true => simp [BitVec.lt_of_getLsbD isSet]

theorem getLsbD_compl (flags : FlagSet) (position : Nat) :
    flags.compl.bits.getLsbD position =
      (!flags.bits.getLsbD position && vocabulary.namedMask.getLsbD position) := by
  rw [compl, ofNamedBits, BitVec.getLsbD_and, BitVec.getLsbD_not]
  cases isNamed : vocabulary.namedMask.getLsbD position with
  | false => simp
  | true => simp [BitVec.lt_of_getLsbD isNamed]

/-- A change works on each bit alone. -/
theorem getLsbD_change (flags : FlagSet) (change : Change) (position : Nat) :
    (flags.change change).bits.getLsbD position =
      change.bit position (flags.bits.getLsbD position) := by
  cases change with
  | insert part => exact BitVec.getLsbD_or
  | remove part => exact getLsbD_without flags.bits part.bits position
  | toggle part => exact BitVec.getLsbD_xor
  | set part present =>
      cases present with
      | false => exact getLsbD_without flags.bits part.bits position
      | true => exact BitVec.getLsbD_or
  | union part => exact BitVec.getLsbD_or
  | inter part => exact BitVec.getLsbD_and
  | diff part => exact getLsbD_without flags.bits part.bits position
  | symmDiff part => exact BitVec.getLsbD_xor
  | compl => exact getLsbD_compl flags position
  | clear => exact BitVec.getLsbD_zero
  | fill => rfl

theorem getLsbD_unknownBits (flags : FlagSet) (position : Nat) :
    flags.unknownBits.getLsbD position =
      (flags.bits.getLsbD position && !vocabulary.namedMask.getLsbD position) :=
  getLsbD_without flags.bits vocabulary.namedMask position

/-! ## Where a bit without a name comes from -/

/-- True of the changes that leave no bit without a name. -/
def Change.resets : Change → Bool
  | .compl | .clear | .fill => true
  | _ => false

/-- The bits that a change can bring into a set from its own part. -/
def Change.added : Change → Mask
  | .insert part | .toggle part | .union part | .symmDiff part => part.bits
  | .set part present => if present then part.bits else 0
  | _ => 0

def Step.resets : Step → Bool
  | .change made => made.resets
  | .ask _ => false

def Step.added : Step → Mask
  | .change made => made.added
  | .ask _ => 0

/-- The steps behind the last reset. -/
def sinceReset (steps : List Step) : List Step := steps.rtakeWhile fun step => !step.resets

section

variable {start : FlagSet} {position : Nat}

theorem source_of_change {flags : FlagSet} {change : Change}
    (unnamed : vocabulary.namedMask.getLsbD position = false)
    (isSet : (flags.change change).bits.getLsbD position = true) :
    change.resets = false ∧
      (change.added.getLsbD position = true ∨ flags.bits.getLsbD position = true) := by
  rw [getLsbD_change] at isSet
  cases change with
  | insert part | union part =>
      exact ⟨rfl, (Bool.or_eq_true_iff.mp isSet).symm⟩
  | toggle part | symmDiff part =>
      refine ⟨rfl, ?_⟩
      cases wasSet : flags.bits.getLsbD position with
      | true => exact Or.inr rfl
      | false => exact Or.inl (by simpa [Change.bit, Change.added, wasSet] using isSet)
  | set part present =>
      cases present with
      | true => exact ⟨rfl, (Bool.or_eq_true_iff.mp isSet).symm⟩
      | false => exact ⟨rfl, Or.inr (Bool.and_eq_true_iff.mp isSet).1⟩
  | remove part | inter part | diff part =>
      exact ⟨rfl, Or.inr (Bool.and_eq_true_iff.mp isSet).1⟩
  | compl => simp [Change.bit, unnamed] at isSet
  | clear => simp [Change.bit] at isSet
  | fill => simp [Change.bit, unnamed] at isSet

theorem source_of_step {flags : FlagSet} {step : Step}
    (unnamed : vocabulary.namedMask.getLsbD position = false)
    (isSet : (flags.step step).bits.getLsbD position = true) :
    step.resets = false ∧
      (step.added.getLsbD position = true ∨ flags.bits.getLsbD position = true) := by
  cases step with
  | change change => exact source_of_change unnamed isSet
  | ask question => exact ⟨rfl, Or.inr isSet⟩

theorem final_concat (steps : List Step) (last : Step) :
    start.final (steps ++ [last]) = (start.final steps).step last :=
  List.foldl_concat step start last steps

theorem sinceReset_concat {last : Step} (noReset : last.resets = false) (steps : List Step) :
    sinceReset (steps ++ [last]) = sinceReset steps ++ [last] := by
  apply List.rtakeWhile_concat_pos
  rw [noReset]
  rfl

/-- By induction from the last step backwards, the way in which a reset is looked
for. -/
theorem source_of_final {steps : List Step}
    (unnamed : vocabulary.namedMask.getLsbD position = false)
    (isSet : (start.final steps).bits.getLsbD position = true) :
    (∃ step ∈ sinceReset steps, step.added.getLsbD position = true) ∨
      (∀ step ∈ steps, step.resets = false) ∧ start.bits.getLsbD position = true := by
  induction steps using List.reverseRecOn with
  | nil => exact Or.inr ⟨by simp, isSet⟩
  | append_singleton steps last inductionHypothesis =>
      rw [final_concat] at isSet
      obtain ⟨noReset, added | wasSet⟩ := source_of_step unnamed isSet
      · left
        refine ⟨last, ?_, added⟩
        rw [sinceReset_concat noReset]
        exact List.mem_append_right _ List.mem_cons_self
      · rw [sinceReset_concat noReset]
        rcases inductionHypothesis wasSet with ⟨step, since, added⟩ | ⟨noneReset, atStart⟩
        · exact Or.inl ⟨step, List.mem_append_left _ since, added⟩
        · refine Or.inr ⟨?_, atStart⟩
          intro step member
          rcases List.mem_append.mp member with earlier | latest
          · exact noneReset step earlier
          · rw [List.mem_singleton.mp latest]
            exact noReset

theorem unknownBits_eq_zero {flags : FlagSet}
    (noneSet : ∀ position, vocabulary.namedMask.getLsbD position = false →
      flags.bits.getLsbD position = false) :
    flags.unknownBits = 0 := by
  apply BitVec.eq_of_getLsbD_eq
  intro position _
  rw [getLsbD_unknownBits, BitVec.ofNat_eq_ofNat, BitVec.getLsbD_zero]
  cases isNamed : vocabulary.namedMask.getLsbD position with
  | true => exact Bool.and_false _
  | false => rw [noneSet position isNamed]; rfl

theorem getLsbD_eq_false_of_named {mask : Mask} (named : vocabulary.unnamedMask mask = 0)
    (unnamed : vocabulary.namedMask.getLsbD position = false) :
    mask.getLsbD position = false := by
  have sameBit := getLsbD_without mask vocabulary.namedMask position
  rw [Vocabulary.unnamedMask] at named
  rw [named, unnamed, Bool.not_false, Bool.and_true] at sameBit
  rw [← sameBit]
  exact BitVec.getLsbD_zero

theorem exists_final_of_mem_run {steps : List Step} {shown : FlagSet × Option Answer}
    (member : shown ∈ start.run steps) :
    ∃ before, before <+: steps ∧ shown.1 = start.final before := by
  induction steps generalizing start with
  | nil => simp [run] at member
  | cons first rest inductionHypothesis =>
      rcases List.mem_cons.mp member with rfl | later
      · exact ⟨[first], List.prefix_append [first] rest, rfl⟩
      · obtain ⟨before, isPrefix, reached⟩ := inductionHypothesis later
        exact ⟨first :: before, List.cons_prefix_cons.mpr ⟨rfl, isPrefix⟩, reached⟩

end

/-- A bit without a name was added behind the last reset, or nothing was ever
reset and it was there at the start. So a reset leaves no such bit, and a run
over named bits alone never shows one. -/
theorem unknownBits_have_source (start : FlagSet) (steps : List Step) :
    (∀ position, (start.final steps).unknownBits.getLsbD position = true →
        (∃ step ∈ sinceReset steps, step.added.getLsbD position = true) ∨
          (∀ step ∈ steps, step.resets = false) ∧ start.bits.getLsbD position = true) ∧
      (∀ last : Step, last.resets = true → (start.final (steps ++ [last])).unknownBits = 0) ∧
      (start.unknownBits = 0 →
        (∀ step ∈ steps, vocabulary.unnamedMask step.added = 0) →
        ∀ shown ∈ start.run steps, shown.1.unknownBits = 0) := by
  refine ⟨?_, ?_, ?_⟩
  · intro position isUnknown
    rw [getLsbD_unknownBits, Bool.and_eq_true, Bool.not_eq_true'] at isUnknown
    exact source_of_final isUnknown.2 isUnknown.1
  · intro last resets
    apply unknownBits_eq_zero
    intro position unnamed
    rw [← Bool.not_eq_true, final_concat]
    intro isSet
    obtain ⟨noReset, _⟩ := source_of_step unnamed isSet
    rw [resets] at noReset
    exact Bool.noConfusion noReset
  · intro startNamed stepsNamed shown member
    obtain ⟨before, isPrefix, reached⟩ := exists_final_of_mem_run member
    rw [reached]
    apply unknownBits_eq_zero
    intro position unnamed
    rw [← Bool.not_eq_true]
    intro isSet
    rcases source_of_final unnamed isSet with ⟨step, since, added⟩ | ⟨_, atStart⟩
    · have inSteps : step ∈ steps :=
        isPrefix.subset ((List.rtakeWhile_suffix _ before).subset since)
      rw [getLsbD_eq_false_of_named (stepsNamed step inSteps) unnamed] at added
      exact Bool.noConfusion added
    · rw [getLsbD_eq_false_of_named startNamed unnamed] at atStart
      exact Bool.noConfusion atStart

theorem unknownBits_have_source_toggled :
    (final ⟨0x40001⟩ [.change .compl, .ask .isAll, .change (.toggle ⟨0x80000010⟩)]).unknownBits =
        0x80000000 ∧
      (∃ step ∈ [Step.ask .isAll, .change (.toggle ⟨0x80000010⟩)],
        step.added.getLsbD 31 = true) ∧
      (final ⟨0x40001⟩ [.change (.insert ⟨0x80000⟩), .change .clear]).unknownBits = 0 ∧
      ∀ shown ∈ run ⟨0x11⟩ [.change (.set ⟨0x20⟩ true), .change .compl],
        shown.1.unknownBits = 0 := by
  obtain ⟨sources, _, _⟩ :=
    unknownBits_have_source ⟨0x40001⟩
      [.change .compl, .ask .isAll, .change (.toggle ⟨0x80000010⟩)]
  obtain ⟨_, afterReset, _⟩ :=
    unknownBits_have_source ⟨0x40001⟩ [.change (.insert ⟨0x80000⟩)]
  obtain ⟨_, _, named⟩ :=
    unknownBits_have_source ⟨0x11⟩ [.change (.set ⟨0x20⟩ true), .change .compl]
  refine ⟨by decide, ?_, afterReset (.change .clear) rfl, named (by decide) (by decide)⟩
  rcases sources 31 (by decide) with since | ⟨noneReset, _⟩
  · exact since
  · exact absurd (noneReset (.change .compl) List.mem_cons_self) (by decide)

/-! ## Two runs -/

/-- True of sets with the same bits at the given positions. -/
def AgreeOn (positions : Set Nat) (left right : FlagSet) : Prop :=
  ∀ position ∈ positions, left.bits.getLsbD position = right.bits.getLsbD position

/-- The operations that take a part. -/
def Change.operations : List (FlagSet → Change) :=
  [.insert, .remove, .toggle, (.set · true), (.set · false), .union, .inter, .diff, .symmDiff]

/-- Changes by the same operation, whose parts agree at the given positions. -/
inductive Change.Parallel (positions : Set Nat) : Change → Change → Prop
  | parts {operation : FlagSet → Change} {left right : FlagSet} :
      operation ∈ operations →
      AgreeOn positions left right →
      Parallel positions (operation left) (operation right)
  | same (change : Change) : Parallel positions change change

/-- Steps with parallel changes. Questions go with each other whatever they ask,
because they change nothing. -/
inductive Step.Parallel (positions : Set Nat) : Step → Step → Prop
  | change {left right : Change} :
      left.Parallel positions right → Parallel positions (.change left) (.change right)
  | ask (left right : Question) : Parallel positions (.ask left) (.ask right)

/-- Runs by the same operations, whose starts and parts agree at the given
positions. -/
structure Parallel (positions : Set Nat) (left right : FlagSet)
    (leftSteps rightSteps : List Step) : Prop where
  starts : AgreeOn positions left right
  steps : List.Forall₂ (Step.Parallel positions) leftSteps rightSteps

section

variable {positions : Set Nat} {left right : FlagSet}

theorem bit_of_parallel {leftChange rightChange : Change}
    (parallel : leftChange.Parallel positions rightChange) {position : Nat}
    (member : position ∈ positions) (before : Bool) :
    leftChange.bit position before = rightChange.bit position before := by
  cases parallel with
  | same => rfl
  | parts listed agree =>
      have sameBit := agree position member
      simp only [Change.operations, List.mem_cons, List.not_mem_nil, or_false] at listed
      rcases listed with rfl | rfl | rfl | rfl | rfl | rfl | rfl | rfl | rfl <;>
        simp only [Change.bit, sameBit]

theorem agreeOn_step {leftStep rightStep : Step}
    (parallel : leftStep.Parallel positions rightStep) (agree : AgreeOn positions left right) :
    AgreeOn positions (left.step leftStep) (right.step rightStep) := by
  intro position member
  cases parallel with
  | ask => exact agree position member
  | change changesParallel =>
      rw [step, step, getLsbD_change, getLsbD_change, agree position member]
      exact bit_of_parallel changesParallel member _

theorem agreeOn_run {leftSteps rightSteps : List Step}
    (parallel : Parallel positions left right leftSteps rightSteps) :
    List.Forall₂ (fun leftShown rightShown => AgreeOn positions leftShown.1 rightShown.1)
      (left.run leftSteps) (right.run rightSteps) := by
  obtain ⟨starts, steps⟩ := parallel
  induction steps generalizing left right with
  | nil => exact List.Forall₂.nil
  | cons first _ inductionHypothesis =>
      have next := agreeOn_step first starts
      exact List.Forall₂.cons next (inductionHypothesis next)

/-- What is seen of sets that agree is the same after every step. -/
theorem map_run_of_parallel {Seen : Type} {see : FlagSet → Seen}
    (sameSeen : ∀ left right, AgreeOn positions left right → see left = see right)
    {leftSteps rightSteps : List Step}
    (parallel : Parallel positions left right leftSteps rightSteps) :
    ((left.run leftSteps).map fun shown => see shown.1) =
      (right.run rightSteps).map fun shown => see shown.1 := by
  rw [← List.forall₂_eq_eq_eq, List.forall₂_map_left_iff, List.forall₂_map_right_iff]
  exact (agreeOn_run parallel).imp fun _ _ agree => sameSeen _ _ agree

theorem fileBits_of_agreeOn (agree : AgreeOn { position | position ≤ 15 } left right) :
    left.fileBits = right.fileBits := by
  have outside : ∀ position < 32, 15 < position → Mask.fileRange.getLsbD position = false := by
    decide
  apply BitVec.eq_of_getLsbD_eq
  intro position below
  rw [fileBits, fileBits, BitVec.getLsbD_and, BitVec.getLsbD_and]
  by_cases inRange : position ≤ 15
  · rw [agree position inRange]
  · rw [outside position below (Nat.lt_of_not_le inRange), Bool.and_false, Bool.and_false]

theorem unknownBits_of_agreeOn
    (agree : AgreeOn { position | vocabulary.namedMask.getLsbD position = false } left right) :
    left.unknownBits = right.unknownBits := by
  apply BitVec.eq_of_getLsbD_eq
  intro position _
  rw [getLsbD_unknownBits, getLsbD_unknownBits]
  cases isNamed : vocabulary.namedMask.getLsbD position with
  | true => rw [Bool.not_true, Bool.and_false, Bool.and_false]
  | false => rw [agree position isNamed]

end

/-- Two runs by the same operations agree, after every step, at all positions at
which their starts and parts agree. So the class-file bits of a run do not depend
on what stands above them, nor the bits without a name on those that have one. -/
theorem positions_independent (left right : FlagSet) (leftSteps rightSteps : List Step) :
    (∀ positions : Set Nat, Parallel positions left right leftSteps rightSteps →
        List.Forall₂ (fun leftShown rightShown => AgreeOn positions leftShown.1 rightShown.1)
          (left.run leftSteps) (right.run rightSteps)) ∧
      (Parallel { position | position ≤ 15 } left right leftSteps rightSteps →
        ((left.run leftSteps).map fun shown => shown.1.fileBits) =
          (right.run rightSteps).map fun shown => shown.1.fileBits) ∧
      (Parallel { position | vocabulary.namedMask.getLsbD position = false } left right
          leftSteps rightSteps →
        ((left.run leftSteps).map fun shown => shown.1.unknownBits) =
          (right.run rightSteps).map fun shown => shown.1.unknownBits) := by
  refine ⟨?_, ?_, ?_⟩
  · intro positions parallel
    exact agreeOn_run parallel
  · intro parallel
    exact map_run_of_parallel (fun _ _ agree => fileBits_of_agreeOn agree) parallel
  · intro parallel
    exact map_run_of_parallel (fun _ _ agree => unknownBits_of_agreeOn agree) parallel

theorem positions_independent_above_file_range :
    Parallel { position | position ≤ 15 } ⟨0x10008⟩ ⟨0xA0000008⟩
        [.change (.toggle ⟨0x40018⟩), .ask .isEmpty, .change .compl]
        [.change (.toggle ⟨0x18⟩), .ask .isEmpty, .change .compl] ∧
      ((run ⟨0x10008⟩ [.change (.toggle ⟨0x40018⟩), .ask .isEmpty, .change .compl]).map
          fun shown => shown.1.fileBits) =
        (run ⟨0xA0000008⟩ [.change (.toggle ⟨0x18⟩), .ask .isEmpty, .change .compl]).map
          fun shown => shown.1.fileBits := by
  have starts : AgreeOn { position | position ≤ 15 } ⟨0x10008⟩ ⟨0xA0000008⟩ := by
    have checked :
        ∀ position ≤ 15,
          (0x10008 : Mask).getLsbD position = (0xA0000008 : Mask).getLsbD position := by
      decide
    exact checked
  have parts : AgreeOn { position | position ≤ 15 } ⟨0x40018⟩ ⟨0x18⟩ := by
    have checked :
        ∀ position ≤ 15, (0x40018 : Mask).getLsbD position = (0x18 : Mask).getLsbD position := by
      decide
    exact checked
  have toggles :
      Change.Parallel { position | position ≤ 15 } (.toggle ⟨0x40018⟩) (.toggle ⟨0x18⟩) :=
    .parts (by simp [Change.operations]) parts
  have parallel :
      Parallel { position | position ≤ 15 } ⟨0x10008⟩ ⟨0xA0000008⟩
        [.change (.toggle ⟨0x40018⟩), .ask .isEmpty, .change .compl]
        [.change (.toggle ⟨0x18⟩), .ask .isEmpty, .change .compl] :=
    ⟨starts, .cons (.change toggles) (.cons (.ask _ _) (.cons (.change (.same _)) .nil))⟩
  obtain ⟨_, sameFileBits, _⟩ := positions_independent ⟨0x10008⟩ ⟨0xA0000008⟩ _ _
  exact ⟨parallel, sameFileBits parallel⟩

end AccessMask.FlagSet
