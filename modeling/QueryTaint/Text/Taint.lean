import QueryTaint.Text.Basic

namespace QueryTaint

-- The positions from `start` up to, and without, `stop`.
structure Span where
  start : Nat
  stop : Nat
  deriving DecidableEq

namespace Text

-- Where the tainted run that begins at `start` ends; `start` itself if that position is clean.
def runEnd (text : Text) (start : Nat) : Nat :=
  start + ((text.drop start).takeWhile Cell.tainted).length

-- Puts the position before `rest` in front: it lengthens a run that begins right after it.
def joinRun (offset : Nat) : List Span → List Span
  | run :: rest =>
    if run.start = offset + 1 then ⟨offset, run.stop⟩ :: rest
    else ⟨offset, offset + 1⟩ :: run :: rest
  | [] => [⟨offset, offset + 1⟩]

def taintedRunsFrom (offset : Nat) : Text → List Span
  | [] => []
  | cell :: rest =>
    if cell.tainted then joinRun offset (taintedRunsFrom (offset + 1) rest)
    else taintedRunsFrom (offset + 1) rest

-- The maximal tainted runs, from left to right.
def taintedRuns (text : Text) : List Span := taintedRunsFrom 0 text

def taintedIndicesFrom (offset : Nat) : Text → List Nat
  | [] => []
  | cell :: rest =>
    if cell.tainted then offset :: taintedIndicesFrom (offset + 1) rest
    else taintedIndicesFrom (offset + 1) rest

def taintedIndices (text : Text) : List Nat := taintedIndicesFrom 0 text

-- How many 16-bit units encode a character.
def units16 (char : Char) : Nat := if char.toNat < 0x10000 then 1 else 2

-- The bits by 16-bit units: both units of a pair carry the bit of their character.
def unitBits (text : Text) : List Bool :=
  text.flatMap fun cell => List.replicate (units16 cell.char) cell.tainted

-- The tainted positions written as a set, with commas and in braces.
def taintSet (text : Text) : String :=
  "\x7b" ++ ", ".intercalate (text.taintedIndices.map toString) ++ "\x7d"

end Text

end QueryTaint
