import AccessMask.Numeral
import AccessMask.Text.Unprintable

/-!
# Quoted text

Text is shown between double quotes. A backslash marks what does not stand for
itself: five characters have a letter of their own, the quote and the backslash
are repeated behind it, and an unprintable character is given by its code point.
-/

namespace AccessMask.Text.Quoted

/-- A code point in hexadecimal, as in `\u{301}`. -/
def codePoint (c : Char) : List Char :=
  '\\' :: 'u' :: '\x7b' :: (Numeral.hexDigits c.toNat ++ ['\x7d'])

/-- The form of one character between quotes. -/
def escape (c : Char) : List Char :=
  if c = '\x00' then ['\\', '0']
  else if c = '\t' then ['\\', 't']
  else if c = '\r' then ['\\', 'r']
  else if c = '\n' then ['\\', 'n']
  else if c = '"' then ['\\', '"']
  else if c = '\\' then ['\\', '\\']
  else if isUnprintable c then codePoint c
  else [c]

/-- The text between its quotes. -/
def body (text : String) : List Char := text.toList.flatMap escape

/-- The text in quotes. -/
def quote (text : String) : String :=
  String.ofList ('"' :: (body text ++ ['"']))

end AccessMask.Text.Quoted
