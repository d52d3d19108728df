import AccessMask.Fault

/-!
# Integer literals

A literal is a run of digits in one of four radices. The radix is decimal
unless the text opens with `0x`, `0o` or `0b`, in either case. Underscores may
stand between digits. The value is exact and has to fit in a mask, however many
digits are written.
-/

namespace AccessMask.Literal

/-- The radices of a literal. -/
inductive Radix where
  | binary
  | octal
  | decimal
  | hexadecimal
  deriving DecidableEq, Repr

/-- The number of digits of a radix. -/
def Radix.base : Radix → Nat
  | .binary => 2
  | .octal => 8
  | .decimal => 10
  | .hexadecimal => 16

/-- Takes the opening that marks a radix off a text. -/
def splitRadix : List Char → Radix × List Char
  | '0' :: 'x' :: digits => (.hexadecimal, digits)
  | '0' :: 'X' :: digits => (.hexadecimal, digits)
  | '0' :: 'o' :: digits => (.octal, digits)
  | '0' :: 'O' :: digits => (.octal, digits)
  | '0' :: 'b' :: digits => (.binary, digits)
  | '0' :: 'B' :: digits => (.binary, digits)
  | digits => (.decimal, digits)

/-- The value of an ASCII letter or digit as a hexadecimal digit. -/
def hexDigit? (c : Char) : Option Nat :=
  if '0' ≤ c ∧ c ≤ '9' then some (c.toNat - 0x30)
  else if 'a' ≤ c ∧ c ≤ 'f' then some (c.toNat - 0x61 + 10)
  else if 'A' ≤ c ∧ c ≤ 'F' then some (c.toNat - 0x41 + 10)
  else none

/-- The value of a character as a digit of a radix. -/
def digit? (radix : Radix) (c : Char) : Option Nat :=
  (hexDigit? c).filter (· < radix.base)

/-- The number with the given digits, the first of them the most significant. -/
def ofDigits (base : Nat) (digits : List Nat) : Nat :=
  digits.foldl (fun value digit => value * base + digit) 0

/-- True when the text has a first and a last character and neither is an
underscore. -/
def hasSolidEnds (digits : List Char) : Bool :=
  digits.head?.any (· ≠ '_') && digits.getLast?.any (· ≠ '_')

/-- The number that the digits of a radix stand for, underscores skipped. -/
def number? (radix : Radix) (digits : List Char) : Option Nat :=
  if hasSolidEnds digits then
    ((digits.filter (· ≠ '_')).mapM (digit? radix)).map (ofDigits radix.base)
  else none

/-- The mask that a literal stands for. -/
def read? (text : String) : Option Mask :=
  let (radix, digits) := splitRadix text.toList
  ((number? radix digits).filter (· < 0x100000000)).map (BitVec.ofNat 32)

/-- Reads a literal; a text that is none is refused whole. -/
def read (text : String) : Except Fault Mask :=
  match read? text with
  | some mask => .ok mask
  | none => .error (.invalidLiteral text)

example : read? "0x1_0000" = some 0x10000 ∧ read? "0X0a" = some 10 := by decide

example : read? "4294967295" = some 0xFFFFFFFF ∧ read? "4294967296" = none := by decide

example : read? "0x" = none ∧ read? "1_" = none ∧ read? "+1" = none ∧ read? "" = none := by
  decide

end AccessMask.Literal
