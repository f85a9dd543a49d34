/-!
Sets of characters as ranges of code points.
-/

namespace PacketRelay.Text

/-- Ranges of code points, first and last included, in increasing order. -/
abbrev Ranges := List (Nat × Nat)

def Ranges.holds (ranges : Ranges) (c : Char) : Bool :=
  ranges.any fun (first, last) => first ≤ c.toNat && c.toNat ≤ last

end PacketRelay.Text
