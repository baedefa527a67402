namespace QueryTaint

-- Each range holds both its ends.
structure CodeRanges where
  ranges : List (Nat × Nat)

def CodeRanges.has (set : CodeRanges) (char : Char) : Bool :=
  set.ranges.any fun (first, last) => first ≤ char.toNat && char.toNat ≤ last

end QueryTaint
