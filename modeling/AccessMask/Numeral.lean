import AccessMask.Mask

/-!
# Numerals of a mask

A mask is written in three ways: in hexadecimal without leading zeros, in
hexadecimal with at least four digits, and in decimal. Hexadecimal digits are
lower case and follow `0x`.
-/

namespace AccessMask.Numeral

/-- The hexadecimal digits of a number, none of them a leading zero. -/
def hexDigits (number : Nat) : List Char := Nat.toDigits 16 number

/-- A mask in hexadecimal without leading zeros, as in `0x8`. -/
def hex (mask : Mask) : String :=
  String.ofList ('0' :: 'x' :: hexDigits mask.toNat)

/-- A mask in hexadecimal with at least four digits, as in `0x0008`. -/
def paddedHex (mask : Mask) : String :=
  String.ofList ('0' :: 'x' :: (hexDigits mask.toNat).leftpad 4 '0')

/-- A mask in decimal. -/
def decimal (mask : Mask) : String :=
  String.ofList (Nat.toDigits 10 mask.toNat)

example : hex 0x8 = "0x8" ∧ paddedHex 0x8 = "0x0008" ∧ decimal 0x8 = "8" := by decide

example : hex 0 = "0x0" ∧ paddedHex 0 = "0x0000" ∧ decimal 0 = "0" := by decide

example : hex 0x12345 = "0x12345" ∧ paddedHex 0x12345 = "0x12345" := by decide

end AccessMask.Numeral
