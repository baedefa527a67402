import QueryTaint.Text.Basic

namespace QueryTaint

-- The half of a delimiter that the last character may be.
inductive Half where
  | none
  | slash
  | star
  deriving DecidableEq

inductive LevelChange where
  | none
  | opened
  | closed
  deriving DecidableEq

structure Nesting where
  -- Whether a comment may stand inside a comment.
  nested : Bool
  level : Nat
  half : Half
  lastTainted : Bool
  deriving DecidableEq

def Half.of (char : Char) : Half :=
  if char = '*' then star else if char = '/' then slash else none

namespace Nesting

-- Right after a clean opener.
def opened (nested : Bool) : Nesting := ⟨nested, 1, .none, false⟩

def change (state : Nesting) (char : Char) : LevelChange :=
  if state.nested ∧ state.half = .slash ∧ char = '*' then .opened
  else if state.half = .star ∧ char = '/' then .closed
  else .none

-- Whether one of the two characters of a delimiter that ends here would be tainted.
def touched (state : Nesting) (cell : Cell) : Bool := cell.tainted || state.lastTainted

-- Whether an untrusted party has a hand in a change of the level.
def taintedChange (state : Nesting) (cell : Cell) : Bool :=
  state.change cell.char ≠ .none && state.touched cell

-- A character that completes a delimiter is not half of another one.
def next (state : Nesting) (cell : Cell) : Nesting :=
  match state.change cell.char with
  | .none => { state with half := .of cell.char, lastTainted := cell.tainted }
  | .opened => { state with level := state.level + 1, half := .none, lastTainted := cell.tainted }
  | .closed => { state with level := state.level - 1, half := .none, lastTainted := cell.tainted }

def isClosed (state : Nesting) : Bool := state.level = 0

end Nesting

end QueryTaint
