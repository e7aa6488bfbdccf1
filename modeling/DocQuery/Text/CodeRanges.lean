namespace DocQuery.Text

/-- Pairs of a first and a last code point, in ascending order. -/
abbrev CodeRanges := List (Nat × Nat)

def CodeRanges.contains : CodeRanges → Nat → Bool
  | [], _ => false
  | (first, last) :: ranges, n =>
    decide (first ≤ n) && (decide (n ≤ last) || CodeRanges.contains ranges n)

end DocQuery.Text
