import QueryTaint.Proofs.Scan.Run

namespace QueryTaint

def Item.shift (distance : Nat) (item : Item) : Item :=
  ⟨item.kind, distance + item.span.start, distance + item.span.stop⟩

def Rejection.shift (distance : Nat) : Rejection → Rejection
  | violation found => violation ⟨found.kind, distance + found.offset⟩
  | malformed construct offset => malformed construct (distance + offset)

namespace Scan

def Context.shift (distance : Nat) : Context → Context
  | code separated => code separated
  | half start first => half (distance + start) first
  | value start separated read => value (distance + start) separated read
  | literal start => literal (distance + start)
  | literalQuote start quote tainted => literalQuote (distance + start) (distance + quote) tainted
  | identifier start => identifier (distance + start)
  | identifierQuote start => identifierQuote (distance + start)
  | lineComment start => lineComment (distance + start)
  | blockComment start nesting => blockComment (distance + start) nesting

-- The same state further on in a query, after the items that were found before.
def State.behind (distance : Nat) (before : List Item) (state : State) : State where
  offset := distance + state.offset
  context := state.context.shift distance
  items := state.items.map (·.shift distance) ++ before

-- What becomes of a result of the scanner when the text moves.
def moved {α : Type} (distance : Nat) (place : α → α) (result : Except Rejection α) :
    Except Rejection α :=
  (result.map place).mapError (·.shift distance)

variable (distance : Nat) (before : List Item)

theorem behind_mk (offset : Nat) (context : Context) (items : List Item) :
    (State.mk offset context items).behind distance before =
      ⟨distance + offset, context.shift distance, items.map (·.shift distance) ++ before⟩ := rfl

theorem outside_shift (separated : Bool) (offset : Nat) (cell : Cell) :
    outside separated (distance + offset) cell =
      (outside separated offset cell).shift distance := by
  unfold outside
  repeat' split
  all_goals rfl

-- A cell outside of every item is read alike.
theorem enter_outside_behind (state : State) (separated : Bool) (cell : Cell) :
    (state.behind distance before).enter
        (outside separated (state.behind distance before).offset cell) =
      (state.enter (outside separated state.offset cell)).behind distance before := by
  unfold State.behind
  rw [outside_shift]
  rfl

theorem closeValue_behind (state : State) (start : Nat) (separated : Bool) (read : List Char) :
    closeValue (state.behind distance before) (distance + start) separated read =
      moved distance (·.behind distance before) (closeValue state start separated read) := by
  unfold closeValue
  split <;> rfl

theorem closeLiteral_behind (state : State) (start quote : Nat) (tainted : Bool) :
    closeLiteral (state.behind distance before) (distance + start) (distance + quote) tainted =
      moved distance (·.behind distance before) (closeLiteral state start quote tainted) := by
  unfold closeLiteral
  split <;> rfl

variable (dialect : Dialect)

theorem opened?_shift (first second : Char) (start : Nat) :
    opened? dialect first second (distance + start) =
      (opened? dialect first second start).map (·.shift distance) := by
  unfold opened?
  repeat' split
  all_goals rfl

theorem step_behind (state : State) (cell : Cell) :
    step dialect (state.behind distance before) cell =
      moved distance (·.behind distance before) (step dialect state cell) := by
  obtain ⟨offset, context, items⟩ := state
  cases context with
  | code separated =>
      exact congrArg Except.ok (enter_outside_behind distance before _ separated cell)
  | half start first =>
      simp only [step, behind_mk, Context.shift, opened?_shift]
      cases opened? dialect first cell.char start with
      | none =>
          exact congrArg Except.ok
            (enter_outside_behind distance before ⟨offset, .half start first, items⟩ true cell)
      | some comment => cases cell.tainted <;> rfl
  | value start separated read =>
      have hclose := closeValue_behind distance before ⟨offset, .value start separated read, items⟩
        start separated read
      simp only [step, behind_mk, Context.shift] at hclose ⊢
      split
      · rfl
      · rw [hclose]
        cases closeValue ⟨offset, .value start separated read, items⟩ start separated read with
        | error rejection => rfl
        | ok closed =>
            exact congrArg Except.ok (enter_outside_behind distance before closed false cell)
  | literalQuote start quote tainted =>
      have hclose := closeLiteral_behind distance before
        ⟨offset, .literalQuote start quote tainted, items⟩ start quote tainted
      simp only [step, behind_mk, Context.shift] at hclose ⊢
      split
      · split <;> rfl
      · rw [hclose]
        cases closeLiteral ⟨offset, .literalQuote start quote tainted, items⟩ start quote
            tainted with
        | error rejection => rfl
        | ok closed =>
            exact congrArg Except.ok (enter_outside_behind distance before closed false cell)
  | identifierQuote start =>
      simp only [step, behind_mk, Context.shift]
      split
      · split <;> rfl
      · exact congrArg Except.ok (enter_outside_behind distance before
          ⟨offset, .identifierQuote start, ⟨.quotedIdentifier, start, offset⟩ :: items⟩ false cell)
  | literal _ | identifier _ | lineComment _ | blockComment _ _ =>
      simp only [step, behind_mk, Context.shift]
      repeat' split
      all_goals rfl

theorem run_behind (state : State) (cells : Text) :
    run dialect (state.behind distance before) cells =
      moved distance (·.behind distance before) (run dialect state cells) := by
  induction cells generalizing state with
  | nil => rfl
  | cons cell cells ih =>
      rw [run_cons, run_cons, step_behind]
      cases step dialect state cell with
      | error rejection => rfl
      | ok next => exact ih next

theorem finish_behind (state : State) :
    finish (state.behind distance before) =
      moved distance (·.behind distance before) (finish state) := by
  obtain ⟨offset, context, items⟩ := state
  cases context with
  | value start separated read => exact closeValue_behind distance before _ start separated read
  | literalQuote start quote tainted =>
      exact closeLiteral_behind distance before _ start quote tainted
  | _ => rfl

theorem complete_behind (state : State) (cells : Text) :
    complete dialect (state.behind distance before) cells =
      moved distance (fun items => items.map (·.shift distance) ++ before)
        (complete dialect state cells) := by
  unfold complete
  rw [run_behind]
  cases run dialect state cells with
  | error rejection => rfl
  | ok last =>
      change finish (last.behind distance before) >>= _ = moved distance _ (finish last >>= _)
      rw [finish_behind]
      cases finish last <;> rfl

end Scan

end QueryTaint
