import QueryTaint.LogFilter.Pattern.CharSet
import QueryTaint.LogFilter.Pattern.Group

namespace QueryTaint.LogFilter.Pattern

-- Flags stand among the parts of a pattern, but they cannot be repeated.
inductive Item where
  | part (depth : Nat)
  | flags

def Item.depth : Item → Nat
  | part depth => depth
  | flags => 0

-- What has been read of the inside of a group, or of the whole pattern.
structure Inside where
  modes : Modes
  -- The names of all groups so far, those around this one among them.
  names : List (List Char)
  -- The depths of the alternatives before the last bar.
  branches : List Nat
  -- What stands behind it, the last item first.
  items : List Item

namespace Inside

def opened (names : List (List Char)) (modes : Modes) : Inside := ⟨modes, names, [], []⟩

def endBranch (inside : Inside) : Inside :=
  { inside with
    branches := Depth.ofParts (inside.items.map Item.depth) :: inside.branches
    items := [] }

def depth (inside : Inside) : Nat := Depth.ofParts inside.endBranch.branches

def add (inside : Inside) (depth : Nat) : Inside :=
  { inside with items := .part depth :: inside.items }

def setModes (inside : Inside) (modes : Modes) : Inside :=
  { inside with modes, items := .flags :: inside.items }

def addGroup (inside group : Inside) : Inside :=
  { inside.add (group.depth + 1) with names := group.names }

-- A sign of repetition belongs to the item before it.
def repeat? (inside : Inside) : Option Inside :=
  match inside.items with
  | .part depth :: items => some { inside with items := .part (depth + 1) :: items }
  | _ => none

end Inside

-- The depth of an item other than a group, and what follows it. A dot does not stand for a byte,
-- which may be a part of a character.
def readItem? (modes : Modes) : List Char → Option (Nat × List Char)
  -- A count of repetitions, which no brace can close in a field.
  | '{' :: _ => none
  | '[' :: rest => CharSet.read? modes rest
  | '.' :: rest => if modes.unicode then some (0, rest) else none
  | '^' :: rest | '$' :: rest => some (0, rest)
  | chars => do
    let (symbol, rest) ← Symbol.read? modes chars
    if symbol.isItem modes then some (0, rest) else none

-- The inside of a group that has been read up to here, all of it, and what follows: a parenthesis
-- or nothing.
def readInside? : (fuel : Nat) → Inside → List Char → Option (Inside × List Char)
  | 0, _, _ => none
  | fuel + 1, inside, chars =>
    match inside.modes.skip chars with
    | [] => some (inside, [])
    | ')' :: rest => some (inside, ')' :: rest)
    | '|' :: rest => readInside? fuel inside.endBranch rest
    | '*' :: rest | '+' :: rest | '?' :: rest => do
      let repeated ← inside.repeat?
      -- A question mark says that few repetitions are preferred.
      readInside? fuel repeated (if rest.head? = some '?' then rest.drop 1 else rest)
    | '(' :: rest => do
      match ← Opening.read? inside.modes rest with
      | (.flags modes, rest) => readInside? fuel (inside.setModes modes) rest
      | (.group name modes, rest) =>
        let names := if name = [] then inside.names else name :: inside.names
        match ← readInside? fuel (.opened names modes) rest with
        | (group, ')' :: rest) => readInside? fuel (inside.addGroup group) rest
        | _ => none
    | chars => do
      let (depth, rest) ← readItem? inside.modes chars
      readInside? fuel (inside.add depth) rest

end Pattern

-- Groups have different names. Each step of the reading takes a character at least, and one more
-- finds the end.
def isPattern (chars : List Char) : Bool :=
  match Pattern.readInside? (chars.length + 1) (.opened [] .initial) chars with
  | some (inside, []) =>
    inside.depth ≤ Pattern.Depth.limit && inside.names.Nodup
  | _ => false

end QueryTaint.LogFilter
