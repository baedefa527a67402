import QueryTaint.Proofs.Scan.Run

namespace QueryTaint

attribute [ext] Cell

namespace Scan

variable (dialect : Dialect) (offset : Nat) (cell : Cell)

-- The cell leads from one context to the next and completes at most one item.
inductive Passes : Context → Context → Option Item → Prop where
  | code (separated : Bool) : Passes (.code separated) (outside separated offset cell) none
  | noOpener (start : Nat) (first : Char) :
    opened? dialect first cell.char start = none →
      Passes (.half start first) (outside true offset cell) none
  | opener (start : Nat) (first : Char) (comment : Context) :
    opened? dialect first cell.char start = some comment → cell.tainted = false →
      Passes (.half start first) comment none
  | valueChar (start : Nat) (separated : Bool) (read : List Char) :
    cell.tainted = true →
      Passes (.value start separated read) (.value start separated (cell.char :: read)) none
  | afterValue (start : Nat) (separated : Bool) (read : List Char) :
    cell.tainted = false → valueFault? separated read.reverse = none →
      Passes (.value start separated read) (outside false offset cell)
        (some ⟨.value, start, offset⟩)
  | literalChar (start : Nat) :
    cell.char ≠ '\'' → ¬(cell.char = '\x00' ∧ cell.tainted = true) →
      Passes (.literal start) (.literal start) none
  | literalQuote (start : Nat) :
    cell.char = '\'' → Passes (.literal start) (.literalQuote start offset cell.tainted) none
  | literalPair (start quote : Nat) :
    cell.char = '\'' → Passes (.literalQuote start quote cell.tainted) (.literal start) none
  | afterLiteral (start quote : Nat) :
    cell.char ≠ '\'' →
      Passes (.literalQuote start quote false) (outside false offset cell)
        (some ⟨.stringLiteral, start, offset⟩)
  | identifierChar (start : Nat) :
    cell.char ≠ '"' → cell.tainted = false → Passes (.identifier start) (.identifier start) none
  | identifierQuote (start : Nat) :
    cell = ⟨'"', false⟩ → Passes (.identifier start) (.identifierQuote start) none
  | identifierPair (start : Nat) :
    cell = ⟨'"', false⟩ → Passes (.identifierQuote start) (.identifier start) none
  | afterIdentifier (start : Nat) :
    cell.char ≠ '"' →
      Passes (.identifierQuote start) (outside false offset cell)
        (some ⟨.quotedIdentifier, start, offset⟩)
  | lineChar (start : Nat) :
    isLineEnd cell.char = false → Passes (.lineComment start) (.lineComment start) none
  | lineEnd (start : Nat) :
    isLineEnd cell.char = true → cell.tainted = false →
      Passes (.lineComment start) (.code true) (some ⟨.lineComment, start, offset + 1⟩)
  | blockChar (start : Nat) (nesting : Nesting) :
    nesting.taintedChange cell = false → (nesting.next cell).isClosed = false →
      Passes (.blockComment start nesting) (.blockComment start (nesting.next cell)) none
  | blockEnd (start : Nat) (nesting : Nesting) :
    nesting.taintedChange cell = false → (nesting.next cell).isClosed = true →
      Passes (.blockComment start nesting) (.code true) (some ⟨.blockComment, start, offset + 1⟩)

-- The cell is refused.
inductive Refuses : Context → Violation → Prop where
  | opener (start : Nat) (first : Char) :
    opensComment first cell.char = true → cell.tainted = true →
      Refuses (.half start first) ⟨.commentDelimiter, offset⟩
  | afterValue (start : Nat) (separated : Bool) (read : List Char) (kind : ViolationKind) :
    cell.tainted = false → valueFault? separated read.reverse = some kind →
      Refuses (.value start separated read) ⟨kind, start⟩
  | literalChar (start : Nat) :
    cell = ⟨'\x00', true⟩ → Refuses (.literal start) ⟨.nullByte, offset⟩
  | literalPair (start quote : Nat) (tainted : Bool) :
    cell = ⟨'\'', !tainted⟩ → Refuses (.literalQuote start quote tainted) ⟨.mixedQuoteEscape, quote⟩
  | afterLiteral (start quote : Nat) :
    cell.char ≠ '\'' → Refuses (.literalQuote start quote true) ⟨.closingQuote, quote⟩
  | identifier (start : Nat) :
    cell.tainted = true → Refuses (.identifier start) ⟨.identifier, offset⟩
  | identifierPair (start : Nat) :
    cell = ⟨'"', true⟩ → Refuses (.identifierQuote start) ⟨.identifier, offset⟩
  | lineEnd (start : Nat) :
    isLineEnd cell.char = true → cell.tainted = true →
      Refuses (.lineComment start) ⟨.lineTerminator, offset⟩
  | block (start : Nat) (nesting : Nesting) :
    nesting.change cell.char ≠ .none → nesting.touched cell = true →
      Refuses (.blockComment start nesting) ⟨.nesting, offset⟩

-- What a step from the context comes to.
def Explains (context : Context) (items : List Item) : Except Rejection State → Prop
  | .ok next =>
    ∃ reached item, Passes dialect offset cell context reached item ∧
      next = ⟨offset + 1, reached, item.toList ++ items⟩
  | .error rejection =>
    ∃ found, rejection = .violation found ∧ Refuses offset cell context found

theorem step_explained (context : Context) (items : List Item) :
    Explains dialect offset cell context items (step dialect ⟨offset, context, items⟩ cell) := by
  cases context with
  | code separated => exact ⟨_, none, .code separated, rfl⟩
  | half start first =>
      simp only [step]
      cases hopened : opened? dialect first cell.char start with
      | none => exact ⟨_, none, .noOpener start first hopened, rfl⟩
      | some comment =>
          cases htainted : cell.tainted with
          | true =>
              have hopens : opensComment first cell.char = true := by
                rw [← Bool.not_eq_false, ← opened?_eq_none_iff dialect first cell.char start,
                  hopened]
                exact Option.some_ne_none comment
              exact ⟨_, rfl, .opener start first hopens htainted⟩
          | false => exact ⟨_, none, .opener start first comment hopened htainted, rfl⟩
  | value start separated read =>
      simp only [step]
      cases htainted : cell.tainted with
      | true => exact ⟨_, none, .valueChar start separated read htainted, rfl⟩
      | false =>
          simp only [Bool.false_eq_true, if_false, closeValue]
          cases hfault : valueFault? separated read.reverse with
          | some kind => exact ⟨_, rfl, .afterValue start separated read kind htainted hfault⟩
          | none => exact ⟨_, some _, .afterValue start separated read htainted hfault, rfl⟩
  | literal start =>
      simp only [step]
      by_cases hquote : cell.char = '\''
      · rw [if_pos hquote]
        exact ⟨_, none, .literalQuote start hquote, rfl⟩
      rw [if_neg hquote]
      by_cases hnull : cell.char = '\x00' ∧ cell.tainted = true
      · rw [if_pos hnull]
        exact ⟨_, rfl, .literalChar start (Cell.ext hnull.1 hnull.2)⟩
      · rw [if_neg hnull]
        exact ⟨_, none, .literalChar start hquote hnull, rfl⟩
  | literalQuote start quote tainted =>
      simp only [step]
      by_cases hquote : cell.char = '\''
      · rw [if_pos hquote]
        by_cases hsame : cell.tainted = tainted
        · rw [if_pos hsame, ← hsame]
          exact ⟨_, none, .literalPair start quote hquote, rfl⟩
        · rw [if_neg hsame]
          have hcell : cell.tainted = !tainted := Bool.eq_not.mpr hsame
          exact ⟨_, rfl, .literalPair start quote tainted (Cell.ext hquote hcell)⟩
      · rw [if_neg hquote]
        cases tainted with
        | true => exact ⟨_, rfl, .afterLiteral start quote hquote⟩
        | false => exact ⟨_, some _, .afterLiteral start quote hquote, rfl⟩
  | identifier start =>
      simp only [step]
      cases htainted : cell.tainted with
      | true => exact ⟨_, rfl, .identifier start htainted⟩
      | false =>
          by_cases hquote : cell.char = '"'
          · simp only [hquote, Bool.false_eq_true, if_true, if_false]
            exact ⟨_, none, .identifierQuote start (Cell.ext hquote htainted), rfl⟩
          · simp only [hquote, Bool.false_eq_true, if_false]
            exact ⟨_, none, .identifierChar start hquote htainted, rfl⟩
  | identifierQuote start =>
      simp only [step]
      by_cases hquote : cell.char = '"'
      · rw [if_pos hquote]
        cases htainted : cell.tainted with
        | true => exact ⟨_, rfl, .identifierPair start (Cell.ext hquote htainted)⟩
        | false => exact ⟨_, none, .identifierPair start (Cell.ext hquote htainted), rfl⟩
      · rw [if_neg hquote]
        exact ⟨_, some _, .afterIdentifier start hquote, rfl⟩
  | lineComment start =>
      simp only [step]
      cases hend : isLineEnd cell.char with
      | false => exact ⟨_, none, .lineChar start hend, rfl⟩
      | true =>
          cases htainted : cell.tainted with
          | true => exact ⟨_, rfl, .lineEnd start hend htainted⟩
          | false => exact ⟨_, some _, .lineEnd start hend htainted, rfl⟩
  | blockComment start nesting =>
      simp only [step]
      cases htouched : nesting.taintedChange cell with
      | true =>
          have hboth := htouched
          simp only [Nesting.taintedChange, Bool.and_eq_true, decide_eq_true_eq] at hboth
          exact ⟨_, rfl, .block start nesting hboth.1 hboth.2⟩
      | false =>
          cases hclosed : (nesting.next cell).isClosed with
          | true => exact ⟨_, some _, .blockEnd start nesting htouched hclosed, rfl⟩
          | false => exact ⟨_, none, .blockChar start nesting htouched hclosed, rfl⟩

variable {dialect offset cell} {context : Context} {items : List Item}

theorem passes_of_step {next : State}
    (h : step dialect ⟨offset, context, items⟩ cell = .ok next) :
    ∃ reached item, Passes dialect offset cell context reached item ∧
      next = ⟨offset + 1, reached, item.toList ++ items⟩ := by
  have hexplained := step_explained dialect offset cell context items
  rwa [h] at hexplained

theorem refuses_of_step {rejection : Rejection}
    (h : step dialect ⟨offset, context, items⟩ cell = .error rejection) :
    ∃ found, rejection = .violation found ∧ Refuses offset cell context found := by
  have hexplained := step_explained dialect offset cell context items
  rwa [h] at hexplained

end Scan

end QueryTaint
