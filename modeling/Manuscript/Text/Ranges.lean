/-!
Sets of code points as closed ranges, in ascending order and apart from each
other by at least one code point.
-/

namespace Manuscript.Text

abbrev Ranges := List (Nat × Nat)

namespace Ranges

def greatest : Nat :=
  0x10ffff

/-- Puts a range before ranges that begin no earlier, joining those it touches. -/
def join (r : Nat × Nat) : Ranges → Ranges
  | [] => [r]
  | s :: rest => if s.1 ≤ r.2 + 1 then join (r.1, max r.2 s.2) rest else r :: s :: rest

def ofList (rs : List (Nat × Nat)) : Ranges :=
  (rs.mergeSort fun r s => r.1 ≤ s.1).foldr join []

def union (a b : Ranges) : Ranges :=
  ofList (a ++ b)

/-- The code points from one on that are in none of the ranges. -/
def gapsFrom (least : Nat) : Ranges → Ranges
  | [] => if least ≤ greatest then [(least, greatest)] else []
  | r :: rest =>
    if least < r.1 then (least, r.1 - 1) :: gapsFrom (r.2 + 1) rest else gapsFrom (r.2 + 1) rest

def complement (a : Ranges) : Ranges :=
  gapsFrom 0 a

def inter (a b : Ranges) : Ranges :=
  complement (union (complement a) (complement b))

def diff (a b : Ranges) : Ranges :=
  inter a (complement b)

end Ranges

end Manuscript.Text
