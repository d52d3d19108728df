/-!
# Classes of characters

A class is given by ranges of code points, which is how the properties of
Unicode are published.
-/

namespace AccessMask.Text

/-- A class of characters as closed ranges of code points, first and last. -/
structure CharacterClass where
  ranges : List (Nat × Nat)

/-- True when some range holds the character's code point. -/
def CharacterClass.contains (members : CharacterClass) (c : Char) : Bool :=
  members.ranges.any fun (first, last) => first ≤ c.toNat && c.toNat ≤ last

end AccessMask.Text
