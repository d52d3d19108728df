/-!
# Journals

A journal is what a computation tells about itself: a list of records in the
order in which they arose. It never changes the answer.
-/

namespace AccessMask

/-- How much detail a record carries. -/
inductive Level where
  /-- The outcome of a whole step. -/
  | debug
  /-- A detail inside a step. -/
  | trace
  deriving DecidableEq, Repr

/-- The name that a record shows. -/
def Level.name : Level → String
  | .debug => "DEBUG"
  | .trace => "TRACE"

/-- One line of a journal. -/
structure Record where
  level : Level
  message : String
  deriving DecidableEq, Repr

end AccessMask
