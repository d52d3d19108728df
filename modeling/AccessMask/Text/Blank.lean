import AccessMask.Text.CharacterClass

/-!
# Blank characters

The twenty-five characters with the Unicode property `White_Space`. The set is
wider than `Char.isWhitespace`: it has the vertical tab, the form feed, the
no-break spaces and the typographic spaces.
-/

namespace AccessMask.Text

/-- The characters with the property `White_Space`. -/
def blank : CharacterClass :=
  ⟨[(0x9, 0xD), (0x20, 0x20), (0x85, 0x85), (0xA0, 0xA0), (0x1680, 0x1680),
    (0x2000, 0x200A), (0x2028, 0x2029), (0x202F, 0x202F), (0x205F, 0x205F),
    (0x3000, 0x3000)]⟩

/-- True of a blank character. -/
def isBlank (c : Char) : Bool := blank.contains c

end AccessMask.Text
