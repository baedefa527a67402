import QueryTaint.Text.Taint
import QueryTaint.Lexis.Classes
import QueryTaint.Lexis.Number
import QueryTaint.Rejection

namespace QueryTaint

def isValue (chars : List Char) : Bool := Number.isLiteral chars || isBoolean chars

-- What is wrong with a tainted run, if anything is. Its place is looked at before its content.
def valueFault? (separated : Bool) (run : List Char) : Option ViolationKind :=
  if !separated then some .unseparatedValue
  else if isValue run then none
  else some .invalidValue

namespace Text

-- The cell before a position, if the text has one.
def before? (text : Text) : Nat → Option Cell
  | 0 => none
  | index + 1 => text[index]?

-- Where the value that begins at `offset` ends. A clean character there is an empty run, which is
-- no value.
def valueEnd (text : Text) (offset : Nat) : Except Violation Nat :=
  let run := (text.drop offset).takeWhile Cell.tainted
  if run.isEmpty then .error ⟨.invalidValue, offset⟩
  else
    match valueFault? (separates (text.before? offset)) (Text.chars run) with
    | some kind => .error ⟨kind, offset⟩
    | none => .ok (offset + run.length)

-- Judges every tainted run of `cells`, which stand at `offset` and right after `before`.
def checkRunsAfter (before : Option Cell) (offset : Nat) (cells : Text) : Except Violation Unit :=
  match cells with
  | [] => .ok ()
  | cell :: rest =>
    if cell.tainted then
      let more := rest.takeWhile Cell.tainted
      match valueFault? (separates before) (Text.chars (cell :: more)) with
      | some kind => .error ⟨kind, offset⟩
      | none => checkRunsAfter (some cell) (offset + 1 + more.length) (rest.drop more.length)
    else checkRunsAfter (some cell) (offset + 1) rest
termination_by cells.length
decreasing_by all_goals simp only [List.length_drop, List.length_cons]; omega

-- Judges every tainted run at or after `offset`. A run that is under way there is judged from there
-- on, and then it is not separated from what comes before.
def checkRuns (text : Text) (offset : Nat) : Except Violation Unit :=
  checkRunsAfter (text.before? offset) offset (text.drop offset)

end Text

end QueryTaint
