import QueryTaint.Proofs.Lexis.Nesting
import QueryTaint.Proofs.Scan.Lookahead
import QueryTaint.Proofs.Scan.Transition
import QueryTaint.Validator

namespace QueryTaint

-- The same characters with no bit set.
def Text.clear (text : Text) : Text := text.map fun cell => { cell with tainted := false }

namespace Scan

variable (dialect : Dialect)

-- The contexts that clean text leads to.
def Context.Clean : Context → Prop
  | .value _ _ _ => False
  | .literalQuote _ _ tainted => tainted = false
  | .blockComment _ nesting => nesting.lastTainted = false
  | _ => True

theorem outside_clean (separated : Bool) (offset : Nat) (char : Char) :
    (outside separated offset ⟨char, false⟩).Clean := by
  simp only [outside, Bool.false_eq_true, if_false]
  split
  · trivial
  · split
    · trivial
    · split <;> trivial

-- A clean cell leaves no tainted run and no tainted quote open.
theorem clean_of_step {state next : State} {cell : Cell} (hcell : cell.tainted = false)
    (h : step dialect state cell = .ok next) : next.context.Clean := by
  obtain ⟨offset, context, items⟩ := state
  obtain ⟨char, tainted⟩ := cell
  obtain rfl : tainted = false := hcell
  obtain ⟨reached, item, hpasses, rfl⟩ := passes_of_step h
  cases hpasses with
  | code separated => exact outside_clean separated offset char
  | noOpener _ _ _ => exact outside_clean true offset char
  | opener start first comment hopened _ =>
      unfold opened? at hopened
      split at hopened
      · cases hopened
        trivial
      · split at hopened <;> cases hopened
        rfl
  | valueChar _ _ _ htainted => cases htainted
  | afterValue _ _ _ _ _ => exact outside_clean false offset char
  | literalQuote _ _ => rfl
  | afterLiteral _ _ _ => exact outside_clean false offset char
  | afterIdentifier _ _ => exact outside_clean false offset char
  | blockChar start nesting _ _ => exact nesting.lastTainted_next ⟨char, false⟩
  | _ => trivial

theorem step_clean (offset : Nat) (context : Context) (items : List Item) (char : Char)
    (hclean : context.Clean) :
    ∃ next, step dialect ⟨offset, context, items⟩ ⟨char, false⟩ = .ok next ∧
      next.context.Clean := by
  have hreads : ∃ next, step dialect ⟨offset, context, items⟩ ⟨char, false⟩ = .ok next := by
    cases context with
    | value => exact hclean.elim
    | literalQuote start quote tainted =>
        obtain rfl : tainted = false := hclean
        simp only [step, closeLiteral, if_true, Bool.false_eq_true, if_false, ok_bind]
        split <;> exact ⟨_, rfl⟩
    | blockComment start nesting =>
        have hlast : nesting.lastTainted = false := hclean
        simp only [step, Nesting.taintedChange, Nesting.touched, hlast, Bool.or_false,
          Bool.and_false, Bool.false_eq_true, if_false]
        split <;> exact ⟨_, rfl⟩
    | _ =>
        simp only [step, Bool.false_eq_true, and_false, if_false]
        repeat' split
        all_goals exact ⟨_, rfl⟩
  obtain ⟨next, hnext⟩ := hreads
  exact ⟨next, hnext, clean_of_step dialect rfl hnext⟩

theorem finish_clean_ne_violation {state : State} (hclean : state.context.Clean)
    (found : Violation) : finish state ≠ .error (.violation found) := by
  obtain ⟨offset, context, items⟩ := state
  cases context with
  | value => exact hclean.elim
  | literalQuote start quote tainted =>
      obtain rfl : tainted = false := hclean
      simp [finish, closeLiteral]
  | _ => simp [finish]

theorem complete_clean_ne_violation (offset : Nat) (context : Context) (items : List Item)
    (text : Text) (hclean : context.Clean) (found : Violation) :
    complete dialect ⟨offset, context, items⟩ text.clear ≠ .error (.violation found) := by
  induction text generalizing offset context items with
  | nil =>
      have hfinish : finish ⟨offset, context, items⟩ ≠ .error (.violation found) :=
        finish_clean_ne_violation hclean found
      simp only [Text.clear, List.map_nil, complete_nil]
      cases hlast : finish ⟨offset, context, items⟩ with
      | error rejection =>
          rw [hlast] at hfinish
          simpa using hfinish
      | ok last => simp
  | cons cell text ih =>
      obtain ⟨⟨offset', context', items'⟩, hstep, hnext⟩ :=
        step_clean dialect offset context items cell.char hclean
      have htail := ih offset' context' items' hnext
      simp only [Text.clear, List.map_cons] at htail ⊢
      rw [complete_cons, hstep, ok_bind]
      exact htail

-- The context of clean text right after a character that a value may hold.
def Context.FollowsValue (char : Char) (context : Context) : Prop :=
  char = '-' ∧ (∃ start, context = .half start '-') ∨
    char ≠ '-' ∧ ∃ separated, context = .code separated

-- The context in a query and the one at the same place in its clean copy. A tainted run that may
-- still become a value is ordinary text in the copy.
inductive Cleared : Context → Context → Prop where
  | code (left right : Bool) : Cleared (.code left) (.code right)
  | half (start : Nat) (first : Char) : Cleared (.half start first) (.half start first)
  | value (start : Nat) (char : Char) (read more : List Char) (right : Context) :
    isValue ((char :: read).reverse ++ more) = true → right.FollowsValue char →
      Cleared (.value start true (char :: read)) right
  | literal (start : Nat) : Cleared (.literal start) (.literal start)
  | literalQuote (start quote : Nat) (tainted : Bool) :
    Cleared (.literalQuote start quote tainted) (.literalQuote start quote false)
  | identifier (start : Nat) : Cleared (.identifier start) (.identifier start)
  | identifierQuote (start : Nat) : Cleared (.identifierQuote start) (.identifierQuote start)
  | lineComment (start : Nat) : Cleared (.lineComment start) (.lineComment start)
  | blockComment (start : Nat) (nesting : Nesting) :
    Cleared (.blockComment start nesting)
      (.blockComment start { nesting with lastTainted := false })

theorem doomed_or_extends (separated : Bool) (chars : List Char) :
    Doomed separated chars ∨ separated = true ∧ ∃ more, isValue (chars ++ more) = true := by
  by_cases h : Doomed separated chars
  · exact .inl h
  · obtain ⟨more, hmore⟩ := Classical.not_forall.mp h
    obtain ⟨hseparated, hvalue⟩ := (valueFault?_eq_none_iff ..).mp (Classical.not_not.mp hmore)
    exact .inr ⟨hseparated, more, hvalue⟩

theorem outside_followsValue (separated : Bool) (offset : Nat) {chars : List Char} {char : Char}
    (hvalue : isValue chars = true) (hchar : char ∈ chars) :
    (outside separated offset ⟨char, false⟩).FollowsValue char := by
  obtain ⟨hquote, hmark, hslash, -⟩ := isValue_mem hvalue hchar
  rw [outside_plain _ _ _ rfl hquote hmark]
  by_cases h : char = '-'
  · subst h
    exact .inl ⟨rfl, offset, rfl⟩
  · simp only [h, hslash, or_self, if_false]
    exact .inr ⟨h, _, rfl⟩

-- Either way into an item, or into a run that cannot be saved any more.
theorem outside_cleared (left right : Bool) (offset : Nat) (cell : Cell) :
    outside left offset cell = .value offset left [cell.char] ∧ Doomed left [cell.char] ∨
      Cleared (outside left offset cell) (outside right offset ⟨cell.char, false⟩) := by
  cases htainted : cell.tainted with
  | true =>
      have hleft : outside left offset cell = .value offset left [cell.char] := by
        simp [outside, htainted]
      rcases doomed_or_extends left [cell.char] with hdoomed | ⟨rfl, more, hvalue⟩
      · exact .inl ⟨hleft, hdoomed⟩
      · rw [hleft]
        exact .inr (.value offset cell.char [] more _ hvalue
          (outside_followsValue right offset hvalue (by simp)))
  | false =>
      right
      simp only [outside, htainted, Bool.false_eq_true, if_false]
      by_cases hquote : cell.char = '\''
      · simp only [hquote, if_true]
        exact .literal offset
      by_cases hmark : cell.char = '"'
      · simp only [hmark, if_true, if_neg (show ¬ '"' = '\'' by decide)]
        exact .identifier offset
      simp only [hquote, hmark, if_false]
      split
      · exact .half offset cell.char
      · exact .code _ _

-- Both scans read a cell and stay together, or the one of the query cannot avoid a violation.
def StaysCleared (left right : State) (cell : Cell) : Prop :=
  (∀ cells, Violates dialect left (cell :: cells)) ∨
    ∃ next other, step dialect left cell = .ok next ∧
      step dialect right ⟨cell.char, false⟩ = .ok other ∧
      next.offset = other.offset ∧ Cleared next.context other.context

variable {dialect}

theorem staysCleared_outside {left right : State} {cell : Cell} {offset : Nat}
    {separated other : Bool} {items others : List Item}
    (hleft : step dialect left cell = .ok ⟨offset + 1, outside separated offset cell, items⟩)
    (hright : step dialect right ⟨cell.char, false⟩ =
      .ok ⟨offset + 1, outside other offset ⟨cell.char, false⟩, others⟩) :
    StaysCleared dialect left right cell := by
  rcases outside_cleared separated other offset cell with ⟨hvalue, hdoomed⟩ | hcleared
  · refine .inl fun cells => (violates_cons dialect hleft cells).mpr ?_
    rw [hvalue]
    obtain ⟨kind, -, hcomplete⟩ :=
      complete_doomed dialect (offset + 1) offset separated [cell.char] items hdoomed cells
    exact ⟨_, hcomplete⟩
  · exact .inr ⟨_, _, hleft, hright, rfl, hcleared⟩

theorem staysCleared_enter {left right next other : Context} {offset : Nat} {cell : Cell}
    {items others : List Item} (hcleared : Cleared next other)
    (hleft : step dialect ⟨offset, left, items⟩ cell = .ok ⟨offset + 1, next, items⟩)
    (hright : step dialect ⟨offset, right, others⟩ ⟨cell.char, false⟩ =
      .ok ⟨offset + 1, other, others⟩) :
    StaysCleared dialect ⟨offset, left, items⟩ ⟨offset, right, others⟩ cell :=
  .inr ⟨_, _, hleft, hright, rfl, hcleared⟩

theorem staysCleared_of_violation {left right : State} {cell : Cell} {kind : ViolationKind}
    {offset : Nat} (h : step dialect left cell = violation kind offset) :
    StaysCleared dialect left right cell :=
  .inl (violates_of_step dialect h)

variable (dialect)

theorem step_half_cleared (offset start : Nat) (first : Char) (items others : List Item)
    (cell : Cell) :
    StaysCleared dialect ⟨offset, .half start first, items⟩ ⟨offset, .half start first, others⟩
      cell := by
  cases hopened : opened? dialect first cell.char start with
  | none =>
      apply staysCleared_outside
      · simp only [step, hopened]
        rfl
      · simp only [step, hopened]
        rfl
  | some comment =>
      cases htainted : cell.tainted with
      | true =>
          have hstep : step dialect ⟨offset, .half start first, items⟩ cell =
              violation .commentDelimiter offset := by simp only [step, hopened, htainted, if_true]
          exact staysCleared_of_violation hstep
      | false =>
          have hcleared : Cleared comment comment := by
            unfold opened? at hopened
            split at hopened
            · cases hopened
              exact .lineComment start
            · split at hopened <;> cases hopened
              exact .blockComment start _
          refine .inr ⟨⟨offset + 1, comment, items⟩, ⟨offset + 1, comment, others⟩, ?_, ?_, rfl,
            hcleared⟩
          · simp [step, hopened, htainted]
          · simp [step, hopened]

-- A run that goes on stays ordinary text in the copy, since no quote and no comment opener can be
-- part of a value; one that ends is a value or a violation.
theorem step_value_cleared (offset start : Nat) (char : Char) (read more : List Char)
    (right : Context) (items others : List Item) (cell : Cell)
    (hvalue : isValue ((char :: read).reverse ++ more) = true) (hright : right.FollowsValue char) :
    StaysCleared dialect ⟨offset, .value start true (char :: read), items⟩ ⟨offset, right, others⟩
      cell := by
  cases htainted : cell.tainted with
  | true =>
      have hstep : step dialect ⟨offset, .value start true (char :: read), items⟩ cell =
          .ok ⟨offset + 1, .value start true (cell.char :: char :: read), items⟩ := by
        simp only [step, htainted, if_true, State.enter_mk]
      rcases doomed_or_extends true (cell.char :: char :: read).reverse with
        hdoomed | ⟨-, more, hmore⟩
      · refine .inl fun cells => (violates_cons dialect hstep cells).mpr ?_
        obtain ⟨kind, -, hcomplete⟩ := complete_doomed dialect _ start true _ items hdoomed cells
        exact ⟨_, hcomplete⟩
      · have hfollows := outside_followsValue true offset hmore (show cell.char ∈ _ by simp)
        refine .inr ⟨_, ⟨offset + 1, outside true offset ⟨cell.char, false⟩, others⟩, hstep, ?_,
          rfl, .value start cell.char (char :: read) more _ hmore hfollows⟩
        rcases hright with ⟨rfl, first, rfl⟩ | ⟨-, separated, rfl⟩
        · have hhyphen : cell.char ≠ '-' := by
            have hpair : isValue (read.reverse ++ '-' :: cell.char :: more) = true := by
              simpa using hmore
            exact isValue_hyphen_ne hpair
          have hnone := (opened?_eq_none_iff dialect '-' cell.char first).mpr
            (by simp [opensComment, hhyphen])
          simp only [step, hnone, State.enter_mk]
        · obtain ⟨hquote, hmark, -, -⟩ := isValue_mem hmore (show cell.char ∈ _ by simp)
          simp only [step, State.enter_mk, outside_plain _ _ ⟨cell.char, false⟩ rfl hquote hmark]
  | false =>
      cases hfault : valueFault? true (char :: read).reverse with
      | some kind =>
          have hstep : step dialect ⟨offset, .value start true (char :: read), items⟩ cell =
              violation kind start := by
            simp only [step, htainted, Bool.false_eq_true, if_false, closeValue, hfault]
            rfl
          exact staysCleared_of_violation hstep
      | none =>
          obtain ⟨-, hread⟩ := (valueFault?_eq_none_iff ..).mp hfault
          rcases hright with ⟨rfl, -⟩ | ⟨-, separated, rfl⟩
          · rw [List.reverse_cons, not_isValue_hyphen_last] at hread
            cases hread
          · apply staysCleared_outside
            · simp only [step, htainted, Bool.false_eq_true, if_false, closeValue, hfault, ok_bind]
              rfl
            · rfl

theorem step_literal_cleared (offset start : Nat) (items others : List Item) (cell : Cell) :
    StaysCleared dialect ⟨offset, .literal start, items⟩ ⟨offset, .literal start, others⟩ cell := by
  by_cases hquote : cell.char = '\''
  · apply staysCleared_enter (.literalQuote start offset cell.tainted)
    · simp only [step, hquote, if_true, State.enter_mk]
    · simp only [step, hquote, if_true, State.enter_mk]
  · by_cases hnull : cell.char = '\x00' ∧ cell.tainted = true
    · have hstep : step dialect ⟨offset, .literal start, items⟩ cell =
          violation .nullByte offset := by
        simp only [step]
        rw [if_neg hquote, if_pos hnull]
      exact staysCleared_of_violation hstep
    · apply staysCleared_enter (.literal start)
      · simp only [step, hquote, hnull, if_false, State.enter_mk]
      · simp only [step, hquote, if_false, Bool.false_eq_true, and_false, State.enter_mk]

theorem step_literalQuote_cleared (offset start quote : Nat) (tainted : Bool)
    (items others : List Item) (cell : Cell) :
    StaysCleared dialect ⟨offset, .literalQuote start quote tainted, items⟩
      ⟨offset, .literalQuote start quote false, others⟩ cell := by
  by_cases hquote : cell.char = '\''
  · by_cases hsame : cell.tainted = tainted
    · apply staysCleared_enter (.literal start)
      · simp only [step, hquote, hsame, if_true, State.enter_mk]
      · simp only [step, hquote, if_true, State.enter_mk]
    · have hstep : step dialect ⟨offset, .literalQuote start quote tainted, items⟩ cell =
          violation .mixedQuoteEscape quote := by
        simp only [step, hquote, hsame, if_true, if_false]
      exact staysCleared_of_violation hstep
  · cases tainted with
    | true =>
        have hstep : step dialect ⟨offset, .literalQuote start quote true, items⟩ cell =
            violation .closingQuote quote := by
          simp only [step, hquote, if_false, closeLiteral, if_true]
          rfl
        exact staysCleared_of_violation hstep
    | false =>
        apply staysCleared_outside
        · simp only [step, hquote, if_false, closeLiteral, Bool.false_eq_true, ok_bind]
          rfl
        · simp only [step, hquote, if_false, closeLiteral, Bool.false_eq_true, ok_bind]
          rfl

theorem step_identifier_cleared (offset start : Nat) (items others : List Item) (cell : Cell) :
    StaysCleared dialect ⟨offset, .identifier start, items⟩ ⟨offset, .identifier start, others⟩
      cell := by
  cases htainted : cell.tainted with
  | true =>
      have hstep : step dialect ⟨offset, .identifier start, items⟩ cell =
          violation .identifier offset := by simp only [step, htainted, if_true]
      exact staysCleared_of_violation hstep
  | false =>
      by_cases hquote : cell.char = '"'
      · apply staysCleared_enter (.identifierQuote start)
        · simp only [step, htainted, Bool.false_eq_true, if_false, hquote, if_true, State.enter_mk]
        · simp only [step, Bool.false_eq_true, if_false, hquote, if_true, State.enter_mk]
      · apply staysCleared_enter (.identifier start)
        · simp only [step, htainted, Bool.false_eq_true, if_false, hquote, State.enter_mk]
        · simp only [step, Bool.false_eq_true, if_false, hquote, State.enter_mk]

theorem step_identifierQuote_cleared (offset start : Nat) (items others : List Item) (cell : Cell) :
    StaysCleared dialect ⟨offset, .identifierQuote start, items⟩
      ⟨offset, .identifierQuote start, others⟩ cell := by
  by_cases hquote : cell.char = '"'
  · cases htainted : cell.tainted with
    | true =>
        have hstep : step dialect ⟨offset, .identifierQuote start, items⟩ cell =
            violation .identifier offset := by simp only [step, hquote, htainted, if_true]
        exact staysCleared_of_violation hstep
    | false =>
        apply staysCleared_enter (.identifier start)
        · simp only [step, hquote, htainted, if_true, Bool.false_eq_true, if_false, State.enter_mk]
        · simp only [step, hquote, if_true, Bool.false_eq_true, if_false, State.enter_mk]
  · apply staysCleared_outside
    · simp only [step, hquote, if_false]
      rfl
    · simp only [step, hquote, if_false]
      rfl

theorem step_lineComment_cleared (offset start : Nat) (items others : List Item) (cell : Cell) :
    StaysCleared dialect ⟨offset, .lineComment start, items⟩ ⟨offset, .lineComment start, others⟩
      cell := by
  cases hend : isLineEnd cell.char with
  | false =>
      apply staysCleared_enter (.lineComment start)
      · simp only [step, hend, Bool.false_eq_true, if_false, State.enter_mk]
      · simp only [step, hend, Bool.false_eq_true, if_false, State.enter_mk]
  | true =>
      cases htainted : cell.tainted with
      | true =>
          have hstep : step dialect ⟨offset, .lineComment start, items⟩ cell =
              violation .lineTerminator offset := by simp only [step, hend, htainted, if_true]
          exact staysCleared_of_violation hstep
      | false =>
          let item : Item := ⟨.lineComment, start, offset + 1⟩
          refine .inr ⟨⟨offset + 1, .code true, item :: items⟩,
            ⟨offset + 1, .code true, item :: others⟩, ?_, ?_, rfl, .code true true⟩
          · simp only [step, hend, htainted, if_true, Bool.false_eq_true, if_false]
            rfl
          · simp only [step, hend, if_true, Bool.false_eq_true, if_false]
            rfl

-- The bits have no say in the nesting itself.
theorem next_clear (nesting : Nesting) (cell : Cell) :
    ({ nesting with lastTainted := false } : Nesting).next ⟨cell.char, false⟩ =
      { nesting.next cell with lastTainted := false } := by
  unfold Nesting.next
  have hchange : ({ nesting with lastTainted := false } : Nesting).change cell.char =
      nesting.change cell.char := rfl
  simp only [hchange]
  split <;> rfl

theorem step_blockComment_cleared (offset start : Nat) (nesting : Nesting)
    (items others : List Item) (cell : Cell) :
    StaysCleared dialect ⟨offset, .blockComment start nesting, items⟩
      ⟨offset, .blockComment start { nesting with lastTainted := false }, others⟩ cell := by
  have huntouched : ({ nesting with lastTainted := false } : Nesting).taintedChange
      ⟨cell.char, false⟩ = false := by
    simp [Nesting.taintedChange, Nesting.touched]
  cases htouched : nesting.taintedChange cell with
  | true =>
      have hstep : step dialect ⟨offset, .blockComment start nesting, items⟩ cell =
          violation .nesting offset := by simp only [step, htouched, if_true]
      exact staysCleared_of_violation hstep
  | false =>
      cases hclosed : (nesting.next cell).isClosed with
      | true =>
          let item : Item := ⟨.blockComment, start, offset + 1⟩
          refine .inr ⟨⟨offset + 1, .code true, item :: items⟩,
            ⟨offset + 1, .code true, item :: others⟩, ?_, ?_, rfl, .code true true⟩
          · simp only [step, htouched, hclosed, Bool.false_eq_true, if_false, if_true]
            rfl
          · have hother : ({ nesting.next cell with lastTainted := false } : Nesting).isClosed =
                true := hclosed
            simp only [step, huntouched, next_clear, hother, Bool.false_eq_true, if_false, if_true]
            rfl
      | false =>
          have hother : ({ nesting.next cell with lastTainted := false } : Nesting).isClosed =
              false := hclosed
          apply staysCleared_enter (.blockComment start (nesting.next cell))
          · simp only [step, htouched, hclosed, Bool.false_eq_true, if_false, State.enter_mk]
          · simp only [step, huntouched, next_clear, hother, Bool.false_eq_true, if_false,
              State.enter_mk]

theorem step_cleared {left right : Context} (h : Cleared left right) (offset : Nat)
    (items others : List Item) (cell : Cell) :
    StaysCleared dialect ⟨offset, left, items⟩ ⟨offset, right, others⟩ cell := by
  cases h with
  | code left right => exact staysCleared_outside rfl rfl
  | half start first => exact step_half_cleared dialect offset start first items others cell
  | value start char read more _ hvalue hright =>
      exact step_value_cleared dialect offset start char read more _ items others cell hvalue hright
  | literal start => exact step_literal_cleared dialect offset start items others cell
  | literalQuote start quote tainted =>
      exact step_literalQuote_cleared dialect offset start quote tainted items others cell
  | identifier start => exact step_identifier_cleared dialect offset start items others cell
  | identifierQuote start =>
      exact step_identifierQuote_cleared dialect offset start items others cell
  | lineComment start => exact step_lineComment_cleared dialect offset start items others cell
  | blockComment start nesting =>
      exact step_blockComment_cleared dialect offset start nesting items others cell

theorem finish_cleared {left right : Context} (h : Cleared left right) (offset : Nat)
    (items others : List Item) :
    (∃ found, finish ⟨offset, left, items⟩ = .error (.violation found)) ∨
      (finish ⟨offset, left, items⟩ >>= fun _ => (.ok () : Verdict)) =
        (finish ⟨offset, right, others⟩ >>= fun _ => .ok ()) := by
  cases h with
  | value start char read more _ hvalue hright =>
      simp only [finish, closeValue]
      cases hfault : valueFault? true (char :: read).reverse with
      | some kind => exact .inl ⟨⟨kind, start⟩, rfl⟩
      | none => rcases hright with ⟨-, first, rfl⟩ | ⟨-, separated, rfl⟩ <;> exact .inr rfl
  | literalQuote start quote tainted =>
      cases tainted with
      | true => exact .inl ⟨⟨.closingQuote, quote⟩, rfl⟩
      | false => exact .inr rfl
  | _ => exact .inr rfl

theorem complete_cleared {left right : Context} (h : Cleared left right) (offset : Nat)
    (items others : List Item) (text : Text) :
    Violates dialect ⟨offset, left, items⟩ text ∨
      (complete dialect ⟨offset, left, items⟩ text >>= fun _ => (.ok () : Verdict)) =
        (complete dialect ⟨offset, right, others⟩ text.clear >>= fun _ => .ok ()) := by
  induction text generalizing left right offset items others with
  | nil =>
      simp only [Violates, Text.clear, List.map_nil, complete_nil]
      rcases finish_cleared h offset items others with ⟨found, hfound⟩ | hsame
      · exact .inl ⟨found, by rw [hfound]; rfl⟩
      · right
        cases hleft : finish ⟨offset, left, items⟩ <;>
          cases hright : finish ⟨offset, right, others⟩ <;> simp_all
  | cons cell text ih =>
      rcases step_cleared dialect h offset items others cell with
        hviolates | ⟨⟨offset', left', items'⟩, ⟨_, right', others'⟩, hleft, hright, hoffset, hnext⟩
      · exact .inl (hviolates text)
      · obtain rfl : offset' = _ := hoffset
        have htail := ih hnext offset' items' others'
        simp only [Text.clear, List.map_cons] at htail ⊢
        rw [violates_cons dialect hleft, complete_cons, complete_cons, hleft, hright]
        exact htail

end Scan

-- A bit can only turn a verdict into a violation, and without bits there is none.
theorem validate_clear (dialect : Dialect) (query : Text) (incidents others : Incidents) :
    (∀ found, (validate dialect .reject query.clear others).1 ≠ .error (.violation found)) ∧
      ((∃ found, (validate dialect .reject query incidents).1 = .error (.violation found)) ∨
        (validate dialect .reject query incidents).1 =
          (validate dialect .reject query.clear others).1) := by
  simp only [validate_reject, Scan.check_eq_complete]
  constructor
  · intro found h
    rw [← Scan.check_eq_complete, Scan.check_eq_error_iff] at h
    exact Scan.complete_clean_ne_violation dialect 0 (.code true) [] query trivial found h
  · rcases Scan.complete_cleared dialect (.code true true) 0 [] [] query with
      ⟨found, hfound⟩ | hsame
    · refine .inl ⟨found, ?_⟩
      rw [show Scan.complete dialect .start query = _ from hfound]
      rfl
    · exact .inr hsame

end QueryTaint
