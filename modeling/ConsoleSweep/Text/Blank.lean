/-!
# Blank characters

The characters with the Unicode property `White_Space`: twenty-five code points.

* `isBlank`: the property.
-/

namespace ConsoleSweep

/-- The code points of the property `White_Space`, as ranges with both ends included. -/
def blankRanges : List (Nat × Nat) :=
  [(0x09, 0x0D), (0x20, 0x20), (0x85, 0x85), (0xA0, 0xA0), (0x1680, 0x1680), (0x2000, 0x200A),
    (0x2028, 0x2029), (0x202F, 0x202F), (0x205F, 0x205F), (0x3000, 0x3000)]

/-- A character of the property `White_Space`. -/
def isBlank (c : Char) : Bool :=
  blankRanges.any fun (first, last) => first ≤ c.toNat && c.toNat ≤ last

end ConsoleSweep
