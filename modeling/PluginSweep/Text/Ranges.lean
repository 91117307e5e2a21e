/-
PluginSweep/Text/Ranges.lean

Sets of characters given by closed ranges of code points: the form in which
the tables of this library hold the properties of characters.
-/

namespace PluginSweep.Text

/-- Whether the code point of `c` lies in one of the ranges. -/
def inRanges (ranges : List (Nat × Nat)) (c : Char) : Bool :=
  ranges.any fun r => r.1 ≤ c.toNat && c.toNat ≤ r.2

end PluginSweep.Text
