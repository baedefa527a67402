import QueryTaint.Proofs.Scan.Run
import QueryTaint.Proofs.Text.Runs

namespace QueryTaint.Scan

variable (dialect : Dialect)

theorem complete_congr {left right : State} {cells : Text}
    (h : run dialect left cells = run dialect right cells) :
    complete dialect left cells = complete dialect right cells := by
  unfold complete
  rw [h]

-- The contexts with something open, when the next cell does not belong to it.

theorem run_half (offset start : Nat) (first : Char) (items : List Item) (cell : Cell)
    (cells : Text) (h : opensComment first cell.char = false) :
    run dialect ⟨offset, .half start first, items⟩ (cell :: cells) =
      run dialect ⟨offset, .code true, items⟩ (cell :: cells) := by
  simp only [run_cons, step, (opened?_eq_none_iff dialect first cell.char start).mpr h,
    State.enter_mk]

theorem run_value (offset start : Nat) (separated : Bool) (read : List Char) (items : List Item)
    (cell : Cell) (cells : Text) (hclean : cell.tainted = false)
    (hvalue : valueFault? separated read.reverse = none) :
    run dialect ⟨offset, .value start separated read, items⟩ (cell :: cells) =
      run dialect ⟨offset, .code false, ⟨.value, start, offset⟩ :: items⟩ (cell :: cells) := by
  simp only [run_cons, step, hclean, Bool.false_eq_true, if_false, closeValue, hvalue, ok_bind,
    State.close_mk, State.enter_mk]

theorem run_literalQuote (offset start quote : Nat) (items : List Item) (cell : Cell)
    (cells : Text) (h : cell.char ≠ '\'') :
    run dialect ⟨offset, .literalQuote start quote false, items⟩ (cell :: cells) =
      run dialect ⟨offset, .code false, ⟨.stringLiteral, start, offset⟩ :: items⟩
        (cell :: cells) := by
  simp only [run_cons, step, h, if_false, closeLiteral, Bool.false_eq_true, ok_bind,
    State.close_mk, State.enter_mk]

theorem run_identifierQuote (offset start : Nat) (items : List Item) (cell : Cell) (cells : Text)
    (h : cell.char ≠ '"') :
    run dialect ⟨offset, .identifierQuote start, items⟩ (cell :: cells) =
      run dialect ⟨offset, .code false, ⟨.quotedIdentifier, start, offset⟩ :: items⟩
        (cell :: cells) := by
  simp only [run_cons, step, h, if_false, ok_bind, State.close_mk, State.enter_mk]

theorem complete_half (offset start : Nat) (first : Char) (items : List Item) (cells : Text)
    (h : ∀ next ∈ cells.head?, opensComment first next.char = false) :
    complete dialect ⟨offset, .half start first, items⟩ cells =
      complete dialect ⟨offset, .code true, items⟩ cells := by
  cases cells with
  | nil => rfl
  | cons cell cells => exact complete_congr dialect (run_half dialect _ _ _ _ _ _ (h cell rfl))

theorem complete_literalQuote (offset start quote : Nat) (items : List Item) (cells : Text)
    (h : ∀ next ∈ cells.head?, next.char ≠ '\'') :
    complete dialect ⟨offset, .literalQuote start quote false, items⟩ cells =
      complete dialect ⟨offset, .code false, ⟨.stringLiteral, start, offset⟩ :: items⟩ cells := by
  cases cells with
  | nil => rfl
  | cons cell cells =>
      exact complete_congr dialect (run_literalQuote dialect _ _ _ _ _ _ (h cell rfl))

theorem complete_identifierQuote (offset start : Nat) (items : List Item) (cells : Text)
    (h : ∀ next ∈ cells.head?, next.char ≠ '"') :
    complete dialect ⟨offset, .identifierQuote start, items⟩ cells =
      complete dialect ⟨offset, .code false, ⟨.quotedIdentifier, start, offset⟩ :: items⟩
        cells := by
  cases cells with
  | nil => rfl
  | cons cell cells =>
      exact complete_congr dialect (run_identifierQuote dialect _ _ _ _ _ (h cell rfl))

-- Outside of every item.

theorem outside_plain (separated : Bool) (offset : Nat) (cell : Cell)
    (hclean : cell.tainted = false) (hquote : cell.char ≠ '\'') (hmark : cell.char ≠ '"') :
    outside separated offset cell =
      if cell.char = '-' ∨ cell.char = '/' then .half offset cell.char
      else .code cell.isBoundary := by
  simp only [outside, hclean, hquote, hmark, if_false, Bool.false_eq_true]

theorem complete_plain (offset : Nat) (separated : Bool) (items : List Item) (cell : Cell)
    (cells : Text) (hclean : cell.tainted = false) (hquote : cell.char ≠ '\'')
    (hmark : cell.char ≠ '"')
    (hnext : ∀ next ∈ cells.head?, opensComment cell.char next.char = false) :
    complete dialect ⟨offset, .code separated, items⟩ (cell :: cells) =
      complete dialect ⟨offset + 1, .code cell.isBoundary, items⟩ cells := by
  rw [complete_cons]
  simp only [step, ok_bind, State.enter_mk, outside_plain separated offset cell hclean hquote hmark]
  split
  · rename_i hhalf
    have hboundary : cell.isBoundary = true := by
      rcases hhalf with h | h <;> simp [Cell.isBoundary, hclean, h, isSpace, isOperator]
    rw [hboundary]
    exact complete_half dialect _ _ _ _ _ hnext
  · rfl

-- The cells of a tainted run only add to what has been read.
theorem run_tainted (offset start : Nat) (separated : Bool) (read : List Char) (items : List Item)
    (cells : Text) (htainted : ∀ cell ∈ cells, cell.tainted = true) :
    run dialect ⟨offset, .value start separated read, items⟩ cells =
      .ok ⟨offset + cells.length, .value start separated (cells.chars.reverse ++ read), items⟩ := by
  induction cells generalizing offset read with
  | nil => rfl
  | cons cell cells ih =>
      have hcell := htainted cell (by simp)
      rw [run_cons]
      simp only [step, hcell, if_true, ok_bind, State.enter_mk]
      rw [ih _ _ fun other hother => htainted other (List.mem_cons_of_mem _ hother)]
      simp [Text.chars, Nat.add_assoc, Nat.add_comm 1]

-- A tainted run is judged as a whole, at the first clean cell or at the end of the query.
theorem complete_value (offset start : Nat) (separated : Bool) (read : List Char)
    (items : List Item) (cells : Text) (hhead : ∀ next ∈ cells.head?, next.tainted = false) :
    complete dialect ⟨offset, .value start separated read, items⟩ cells =
      match valueFault? separated read.reverse with
      | some kind => .error (.violation ⟨kind, start⟩)
      | none => complete dialect ⟨offset, .code false, ⟨.value, start, offset⟩ :: items⟩ cells := by
  cases hvalue : valueFault? separated read.reverse with
  | none =>
      cases cells with
      | nil => simp [complete_nil, finish, closeValue, hvalue]
      | cons cell cells =>
          exact complete_congr dialect (run_value dialect _ _ _ _ _ _ _ (hhead cell rfl) hvalue)
  | some kind =>
      cases cells with
      | nil => simp [complete_nil, finish, closeValue, hvalue, violation]
      | cons cell cells =>
          simp [complete_cons, step, hhead cell rfl, closeValue, hvalue, violation]

-- A tainted run that begins outside of every item.
theorem complete_taintedRun (offset : Nat) (separated : Bool) (items : List Item) (cell : Cell)
    (more rest : Text) (htainted : ∀ other ∈ cell :: more, other.tainted = true)
    (hhead : ∀ next ∈ rest.head?, next.tainted = false) :
    complete dialect ⟨offset, .code separated, items⟩ (cell :: more ++ rest) =
      match valueFault? separated (Text.chars (cell :: more)) with
      | some kind => .error (.violation ⟨kind, offset⟩)
      | none =>
        complete dialect
          ⟨offset + (more.length + 1), .code false,
            ⟨.value, offset, offset + (more.length + 1)⟩ :: items⟩ rest := by
  have hcell := htainted cell (by simp)
  have hmore : ∀ other ∈ more, other.tainted = true := fun other hother =>
    htainted other (List.mem_cons_of_mem _ hother)
  rw [List.cons_append, complete_cons]
  simp only [step, outside, hcell, if_true, ok_bind, State.enter_mk]
  rw [complete_append, run_tainted dialect _ _ _ _ _ _ hmore, ok_bind,
    complete_value dialect _ _ _ _ _ _ hhead]
  simp [Text.chars, Nat.add_assoc, Nat.add_comm 1]

-- No tainted run that begins with the characters is a value.
def Doomed (separated : Bool) (chars : List Char) : Prop :=
  ∀ more, valueFault? separated (chars ++ more) ≠ none

-- Inside a run that has come too far to be a value the scan can only end in a violation.
theorem complete_doomed (offset start : Nat) (separated : Bool) (read : List Char)
    (items : List Item) (hdoomed : Doomed separated read.reverse) (cells : Text) :
    ∃ kind, (kind = .invalidValue ∨ kind = .unseparatedValue) ∧
      complete dialect ⟨offset, .value start separated read, items⟩ cells =
        .error (.violation ⟨kind, start⟩) := by
  obtain ⟨more, rest, rfl, hmore, hhead⟩ := Text.exists_run cells
  obtain ⟨kind, hkind⟩ := Option.ne_none_iff_exists'.mp (hdoomed more.chars)
  refine ⟨kind, valueFault?_eq_some hkind, ?_⟩
  rw [complete_append, run_tainted dialect _ _ _ _ _ _ hmore, ok_bind,
    complete_value dialect _ _ _ _ _ _ hhead]
  simp [hkind]

-- String literals.

theorem complete_openLiteral (offset : Nat) (separated : Bool) (items : List Item) (cells : Text) :
    complete dialect ⟨offset, .code separated, items⟩ (⟨'\'', false⟩ :: cells) =
      complete dialect ⟨offset + 1, .literal offset, items⟩ cells := by
  simp [complete_cons, step, outside]

theorem complete_literalChar (offset start : Nat) (items : List Item) (cell : Cell) (cells : Text)
    (hquote : cell.char ≠ '\'') (hnull : ¬(cell.char = '\x00' ∧ cell.tainted = true)) :
    complete dialect ⟨offset, .literal start, items⟩ (cell :: cells) =
      complete dialect ⟨offset + 1, .literal start, items⟩ cells := by
  rw [complete_cons]
  simp only [step, hquote, hnull, if_false, ok_bind, State.enter_mk]

theorem complete_literalPair (offset start : Nat) (items : List Item) (tainted : Bool)
    (cells : Text) :
    complete dialect ⟨offset, .literal start, items⟩ (⟨'\'', tainted⟩ :: ⟨'\'', tainted⟩ :: cells) =
      complete dialect ⟨offset + 2, .literal start, items⟩ cells := by
  simp [complete_cons, step]

theorem complete_closeLiteral (offset start : Nat) (items : List Item) (cells : Text)
    (hhead : ∀ next ∈ cells.head?, next.char ≠ '\'') :
    complete dialect ⟨offset, .literal start, items⟩ (⟨'\'', false⟩ :: cells) =
      complete dialect ⟨offset + 1, .code false, ⟨.stringLiteral, start, offset + 1⟩ :: items⟩
        cells := by
  rw [complete_cons]
  simp only [step, if_true, ok_bind, State.enter_mk]
  exact complete_literalQuote dialect _ _ _ _ _ hhead

-- Quoted identifiers.

theorem complete_openIdentifier (offset : Nat) (separated : Bool) (items : List Item)
    (cells : Text) :
    complete dialect ⟨offset, .code separated, items⟩ (⟨'"', false⟩ :: cells) =
      complete dialect ⟨offset + 1, .identifier offset, items⟩ cells := by
  simp [complete_cons, step, outside]

theorem complete_identifierChar (offset start : Nat) (items : List Item) (cell : Cell)
    (cells : Text) (hclean : cell.tainted = false) (hquote : cell.char ≠ '"') :
    complete dialect ⟨offset, .identifier start, items⟩ (cell :: cells) =
      complete dialect ⟨offset + 1, .identifier start, items⟩ cells := by
  rw [complete_cons]
  simp only [step, hclean, hquote, if_false, Bool.false_eq_true, ok_bind, State.enter_mk]

theorem complete_identifierPair (offset start : Nat) (items : List Item) (cells : Text) :
    complete dialect ⟨offset, .identifier start, items⟩ (⟨'"', false⟩ :: ⟨'"', false⟩ :: cells) =
      complete dialect ⟨offset + 2, .identifier start, items⟩ cells := by
  simp [complete_cons, step]

theorem complete_closeIdentifier (offset start : Nat) (items : List Item) (cells : Text)
    (hhead : ∀ next ∈ cells.head?, next.char ≠ '"') :
    complete dialect ⟨offset, .identifier start, items⟩ (⟨'"', false⟩ :: cells) =
      complete dialect ⟨offset + 1, .code false, ⟨.quotedIdentifier, start, offset + 1⟩ :: items⟩
        cells := by
  rw [complete_cons]
  simp only [step, if_true, if_false, Bool.false_eq_true, ok_bind, State.enter_mk]
  exact complete_identifierQuote dialect _ _ _ _ hhead

-- Comments.

theorem complete_openLineComment (offset : Nat) (separated : Bool) (items : List Item) (mark : Char)
    (hmark : mark = '-' ∨ mark = '/') (cells : Text) :
    complete dialect ⟨offset, .code separated, items⟩ (⟨mark, false⟩ :: ⟨mark, false⟩ :: cells) =
      complete dialect ⟨offset + 2, .lineComment offset, items⟩ cells := by
  rcases hmark with rfl | rfl <;> simp [complete_cons, step, outside, opened?]

theorem complete_lineChar (offset start : Nat) (items : List Item) (cell : Cell) (cells : Text)
    (h : isLineEnd cell.char = false) :
    complete dialect ⟨offset, .lineComment start, items⟩ (cell :: cells) =
      complete dialect ⟨offset + 1, .lineComment start, items⟩ cells := by
  rw [complete_cons]
  simp only [step, h, if_false, Bool.false_eq_true, ok_bind, State.enter_mk]

theorem complete_closeLine (offset start : Nat) (items : List Item) (cell : Cell) (cells : Text)
    (hclean : cell.tainted = false) (h : isLineEnd cell.char = true) :
    complete dialect ⟨offset, .lineComment start, items⟩ (cell :: cells) =
      complete dialect ⟨offset + 1, .code true, ⟨.lineComment, start, offset + 1⟩ :: items⟩
        cells := by
  rw [complete_cons]
  simp only [step, h, hclean, if_true, if_false, Bool.false_eq_true, ok_bind, State.close_mk,
    State.enter_mk]

-- A line comment ends in a character that separates.
theorem separates_lineEnd {ending : Char} (h : isLineEnd ending = true) :
    separates (some ⟨ending, false⟩) = true := by
  rcases isLineEnd_iff.mp h with rfl | rfl <;> rfl

theorem complete_openBlockComment (offset : Nat) (separated : Bool) (items : List Item)
    (cells : Text) :
    complete dialect ⟨offset, .code separated, items⟩ (⟨'/', false⟩ :: ⟨'*', false⟩ :: cells) =
      complete dialect ⟨offset + 2, .blockComment offset (.opened dialect.nestedComments), items⟩
        cells := by
  simp [complete_cons, step, outside, opened?]

-- A cell of a block comment that completes no delimiter only becomes the half of one.
theorem complete_blockChar (offset start : Nat) (nesting : Nesting) (items : List Item)
    (cell : Cell) (cells : Text) (hidle : nesting.change cell.char = .none)
    (hlevel : nesting.level ≠ 0) :
    complete dialect ⟨offset, .blockComment start nesting, items⟩ (cell :: cells) =
      complete dialect
        ⟨offset + 1,
          .blockComment start ⟨nesting.nested, nesting.level, .of cell.char, cell.tainted⟩,
          items⟩ cells := by
  rw [complete_cons]
  simp [step, Nesting.taintedChange, Nesting.next, hidle, Nesting.isClosed, hlevel]

-- The last level that is closed closes the comment.
theorem complete_blockClose (offset start : Nat) (nesting : Nesting) (items : List Item)
    (cells : Text) (hidle : nesting.change '*' = .none) (level : Nat)
    (hlevel : nesting.level = level + 1) :
    complete dialect ⟨offset, .blockComment start nesting, items⟩
        (⟨'*', false⟩ :: ⟨'/', false⟩ :: cells) =
      if level = 0 then
        complete dialect ⟨offset + 2, .code true, ⟨.blockComment, start, offset + 2⟩ :: items⟩ cells
      else
        complete dialect
          ⟨offset + 2, .blockComment start ⟨nesting.nested, level, .none, false⟩, items⟩ cells := by
  rw [complete_blockChar dialect _ _ _ _ _ _ hidle (by omega), complete_cons]
  simp only [step, Nesting.taintedChange, Nesting.touched, Nesting.next, Nesting.change, Half.of,
    hlevel, Nesting.isClosed]
  by_cases hzero : level = 0 <;> simp [hzero]

theorem complete_blockDeepen (offset start : Nat) (nesting : Nesting) (items : List Item)
    (cells : Text) (hnested : nesting.nested = true) (hidle : nesting.change '/' = .none)
    (hlevel : nesting.level ≠ 0) :
    complete dialect ⟨offset, .blockComment start nesting, items⟩
        (⟨'/', false⟩ :: ⟨'*', false⟩ :: cells) =
      complete dialect
        ⟨offset + 2, .blockComment start ⟨true, nesting.level + 1, .none, false⟩, items⟩ cells := by
  rw [complete_blockChar dialect _ _ _ _ _ _ hidle hlevel, complete_cons]
  simp [step, Nesting.taintedChange, Nesting.touched, Nesting.next, Nesting.change, Half.of,
    hnested, Nesting.isClosed]

end QueryTaint.Scan
