namespace SqlScript

/-- The characters from `low` to `high`, both included, by their numbers. -/
structure CharRange where
  low : Nat
  high : Nat

def CharRange.contains (range : CharRange) (c : Char) : Bool :=
  range.low ≤ c.toNat && c.toNat ≤ range.high

/-- Whether ranges come in ascending order, with a gap between each two. -/
def ascending : List CharRange → Bool
  | [] => true
  | [range] => range.low ≤ range.high
  | range :: next :: rest =>
    range.low ≤ range.high && range.high + 1 < next.low && ascending (next :: rest)

/-- A class of characters, as the ranges that it is made of; the tables follow Unicode 17. -/
structure CharTable where
  ranges : List CharRange
  inOrder : ascending ranges = true := by decide +kernel

def CharTable.contains (table : CharTable) (c : Char) : Bool := table.ranges.any (·.contains c)

/-- How many numbers lie in the ranges, no two of which meet. -/
def CharTable.size (table : CharTable) : Nat :=
  table.ranges.foldr (fun range count => range.high + 1 - range.low + count) 0

end SqlScript
