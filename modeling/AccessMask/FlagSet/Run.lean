import AccessMask.FlagSet.Basic

/-!
# Runs over a flag set

A run takes a flag set through a list of steps. A step either changes the set
or asks it a question, and the run shows the set after each step.
-/

namespace AccessMask.FlagSet

/-- What a step does to a set. -/
inductive Change where
  | insert (part : FlagSet)
  | remove (part : FlagSet)
  | toggle (part : FlagSet)
  /-- Inserts the part if the condition holds and removes it otherwise. -/
  | set (part : FlagSet) (present : Bool)
  | union (part : FlagSet)
  | inter (part : FlagSet)
  | diff (part : FlagSet)
  | symmDiff (part : FlagSet)
  | compl
  /-- Starts again from the empty set. -/
  | clear
  /-- Starts again from the set of all the named flags. -/
  | fill
  deriving DecidableEq, Repr

/-- The set after a change. -/
def change (flags : FlagSet) : Change → FlagSet
  | .insert part => flags.union part
  | .remove part => flags.diff part
  | .toggle part => flags.symmDiff part
  | .set part present => if present then flags.union part else flags.diff part
  | .union part => flags.union part
  | .inter part => flags.inter part
  | .diff part => flags.diff part
  | .symmDiff part => flags.symmDiff part
  | .compl => flags.compl
  | .clear => empty
  | .fill => all

/-- What can be asked of a set. The last three do not depend on it. -/
inductive Question where
  | contains (part : FlagSet)
  | intersects (part : FlagSet)
  | isEmpty
  | isAll
  | compare (other : FlagSet)
  | fileBits
  | unknownBits
  | named
  | parts
  | ofMask (mask : Mask)
  | ofNamedBits (mask : Mask)
  | ofName (name : String)
  deriving DecidableEq, Repr

/-- The answer to a question. -/
inductive Answer where
  | truth (value : Bool)
  | order (value : Ordering)
  | mask (value : Mask)
  | maybe (value : Option FlagSet)
  | names (value : List NamedBit)
  | masks (value : List Mask)
  deriving DecidableEq, Repr

/-- Answers a question about a set. -/
def answer (flags : FlagSet) : Question → Answer
  | .contains part => .truth (flags.contains part)
  | .intersects part => .truth (flags.intersects part)
  | .isEmpty => .truth flags.isEmpty
  | .isAll => .truth flags.isAll
  | .compare other => .order (flags.compare other)
  | .fileBits => .mask flags.fileBits
  | .unknownBits => .mask flags.unknownBits
  | .named => .names flags.named
  | .parts => .masks flags.parts
  | .ofMask mask => .maybe (ofMask? mask)
  | .ofNamedBits mask => .mask (FlagSet.ofNamedBits mask).bits
  | .ofName name => .maybe (ofName? name)

/-- A step of a run. -/
inductive Step where
  | change (change : Change)
  | ask (question : Question)
  deriving DecidableEq, Repr

/-- The set after a step. A question leaves it as it is. -/
def step (flags : FlagSet) : Step → FlagSet
  | .change change => flags.change change
  | .ask _ => flags

/-- What a step answers. A change answers nothing. -/
def stepAnswer (flags : FlagSet) : Step → Option Answer
  | .change _ => none
  | .ask question => some (flags.answer question)

/-- The set after each step of a run, with the answer of the step. -/
def run (flags : FlagSet) : List Step → List (FlagSet × Option Answer)
  | [] => []
  | first :: rest => (flags.step first, flags.stepAnswer first) :: run (flags.step first) rest

/-- The set after all steps of a run. -/
def final (flags : FlagSet) (steps : List Step) : FlagSet := steps.foldl step flags

end AccessMask.FlagSet
