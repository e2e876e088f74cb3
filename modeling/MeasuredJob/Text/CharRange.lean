/-!
# Ranges of characters

A property of characters that follows no rule is a table of closed ranges of code points.
-/

namespace MeasuredJob
namespace Text

/-- The code points from `first` to `last`, both included. -/
structure CharRange where
  first : Nat
  last : Nat
deriving DecidableEq, Repr

namespace CharRange

def contains (r : CharRange) (c : Char) : Bool :=
  r.first ≤ c.toNat && c.toNat ≤ r.last

/-- Some range of the table contains `c`. -/
def anyContains (table : List CharRange) (c : Char) : Bool :=
  table.any fun r => r.contains c

end CharRange
end Text
end MeasuredJob
