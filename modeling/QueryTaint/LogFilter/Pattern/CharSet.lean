import QueryTaint.LogFilter.Pattern.Depth
import QueryTaint.LogFilter.Pattern.Symbol

namespace QueryTaint.LogFilter.Pattern

-- What has been read of a set.
structure CharSet where
  -- At the start, dashes stand for themselves, and so does a bracket that would close the set.
  atStart : Bool
  -- The depth of all that stands before the last operator, if there is one.
  operand : Option Nat
  -- The depths of the items since.
  items : List Nat

namespace CharSet

def opened : CharSet := ⟨true, none, []⟩

def depth (set : CharSet) : Nat :=
  match set.operand with
  | none => Depth.ofParts set.items
  | some operand => max operand (Depth.ofParts set.items) + 1

def combine (set : CharSet) : CharSet := ⟨false, some set.depth, []⟩

def add (set : CharSet) (depth : Nat) : CharSet :=
  { set with atStart := false, items := depth :: set.items }

def names : List String :=
  ["alnum", "alpha", "ascii", "blank", "cntrl", "digit", "graph", "lower", "print", "punct",
    "space", "upper", "word", "xdigit"]

-- A named set of ASCII characters behind the bracket that opens it: whether it is negated, and what
-- follows it.
def readNamed? : List Char → Option (Bool × List Char)
  | ':' :: rest =>
    let negated := rest.head? = some '^'
    let rest := if negated then rest.drop 1 else rest
    match rest.dropWhile (· ≠ ':') with
    | ':' :: ']' :: after =>
      if names.contains (String.ofList (rest.takeWhile (· ≠ ':'))) then some (negated, after)
      else none
    | _ => none
  | _ => none

def allowsNamed (modes : Modes) (negated : Bool) : Bool :=
  if modes.unicode then !modes.anyCase else !negated

-- What follows the start of a set with its sign of negation, if there is one. What a set of bytes
-- leaves out are also parts of characters, so it cannot be negated.
def afterOpening? (modes : Modes) (chars : List Char) : Option (List Char) :=
  match modes.skip chars with
  | '^' :: rest => if modes.unicode then some rest else none
  | chars => some chars

-- What follows the symbol or the range at the start. A dash makes a range unless a bracket or
-- another dash stands behind it.
def afterRange? (modes : Modes) (chars : List Char) : Option (List Char) := do
  let (first, rest) ← Symbol.read? modes chars
  let single := if first.isMember modes then some (modes.skip rest) else none
  match modes.skip rest with
  | '-' :: after =>
    if modes.peek? after = some ']' ∨ modes.peek? after = some '-' then single
    else
      let (last, rest) ← Symbol.read? modes (modes.skip after)
      let first ← first.member? modes
      let last ← last.member? modes
      if first ≤ last then some rest else none
  | _ => single

-- The depth of a set that has been read up to here, and what follows it.
def readFrom? (modes : Modes) : (fuel : Nat) → CharSet → List Char → Option (Nat × List Char)
  | 0, _, _ => none
  | fuel + 1, set, chars =>
    match modes.skip chars with
    | [] => none
    | sign :: rest =>
      if set.atStart ∧ (sign = '-' ∨ (sign = ']' ∧ set.items = [])) then
        if (Symbol.char sign).isMember modes then
          readFrom? modes fuel { set.add 0 with atStart := sign = '-' } rest
        else none
      else if sign = ']' then some (set.depth + 1, rest)
      else if sign = '[' then
        match readNamed? rest with
        | some (negated, rest) =>
          if allowsNamed modes negated then readFrom? modes fuel (set.add 0) rest else none
        | none => do
          let rest ← afterOpening? modes rest
          let (depth, rest) ← readFrom? modes fuel opened rest
          readFrom? modes fuel (set.add depth) rest
      else if (sign = '&' ∨ sign = '-' ∨ sign = '~') ∧ rest.head? = some sign then
        readFrom? modes fuel set.combine (rest.drop 1)
      else do
        let rest ← afterRange? modes (sign :: rest)
        readFrom? modes fuel (set.add 0) rest

-- A set behind the bracket that opens it: its depth, and what follows it. Each step takes a
-- character at least.
def read? (modes : Modes) (chars : List Char) : Option (Nat × List Char) := do
  let rest ← afterOpening? modes chars
  readFrom? modes (rest.length + 1) opened rest

end CharSet

end QueryTaint.LogFilter.Pattern
