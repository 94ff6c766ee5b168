namespace LexicalScan

structure CodeRange where
  first : Nat
  last : Nat

namespace CodeRange

-- Whether `c` lies in one of the ranges, which stand in ascending order: the search ends at the
-- first range above `c`.
def covers : List CodeRange → Char → Bool
  | [], _ => false
  | range :: ranges, c =>
    if c.toNat < range.first then false else c.toNat ≤ range.last || covers ranges c

end CodeRange
end LexicalScan
