namespace QueryTaint.LogFilter.Pattern.Depth

def limit : Nat := 250

-- Several parts side by side make up a part of their own; a single one does not.
def ofParts : List Nat → Nat
  | [] => 0
  | [depth] => depth
  | depths => depths.foldr max 0 + 1

end QueryTaint.LogFilter.Pattern.Depth
