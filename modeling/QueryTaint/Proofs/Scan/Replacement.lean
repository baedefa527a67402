import QueryTaint.Proofs.Scan.Run
import QueryTaint.Validator

namespace QueryTaint

-- The second text has the bits of the first one and its clean characters.
structure Text.Replaces (text other : Text) : Prop where
  bits_eq : other.bits = text.bits
  clean_eq : ∀ (index : Nat) (cell : Cell), text[index]? = some cell → cell.tainted = false →
    other[index]? = some cell

theorem Text.Replaces.nil {other : Text} (h : Text.Replaces [] other) : other = [] := by
  have hbits := h.bits_eq
  simpa [Text.bits] using hbits

theorem Text.Replaces.cons {cell : Cell} {text other : Text}
    (h : Text.Replaces (cell :: text) other) :
    ∃ first rest, other = first :: rest ∧ first.tainted = cell.tainted ∧
      (cell.tainted = false → first = cell) ∧ Text.Replaces text rest := by
  have hbits := h.bits_eq
  cases other with
  | nil => simp [Text.bits] at hbits
  | cons first rest =>
      simp only [Text.bits, List.map_cons, List.cons.injEq] at hbits
      refine ⟨first, rest, rfl, hbits.1, ?_, ⟨hbits.2, ?_⟩⟩
      · intro hclean
        simpa using h.clean_eq 0 cell rfl hclean
      · intro index other hother hclean
        simpa using h.clean_eq (index + 1) other (by simpa using hother) hclean

theorem Text.Replaces.extend {cell first : Cell} {text other : Text} (h : text.Replaces other)
    (htainted : first.tainted = cell.tainted) (hclean : cell.tainted = false → first = cell) :
    Text.Replaces (cell :: text) (first :: other) := by
  constructor
  · simp only [Text.bits, List.map_cons, List.cons.injEq]
    exact ⟨htainted, h.bits_eq⟩
  · intro index found hfound hfoundClean
    cases index with
    | zero =>
        obtain rfl : cell = found := by simpa using hfound
        simpa using hclean hfoundClean
    | succ index => simpa using h.clean_eq index found (by simpa using hfound) hfoundClean

namespace Scan

variable (dialect : Dialect)

-- The contexts at the same place in the two queries. In a literal the scans may be out of step by
-- half an escape, as long as every quote that makes the difference is tainted; in a block comment
-- they may remember different halves of a delimiter, as long as the last cell is tainted.
inductive Twin : Context → Context → Prop where
  | same (context : Context) : Twin context context
  | value (start : Nat) (separated : Bool) (read other : List Char) :
    Twin (.value start separated read) (.value start separated other)
  | ahead (start quote : Nat) : Twin (.literalQuote start quote true) (.literal start)
  | behind (start quote : Nat) : Twin (.literal start) (.literalQuote start quote true)
  | blockComment (start : Nat) (nesting other : Nesting) :
    other.nested = nesting.nested → other.level = nesting.level → nesting.lastTainted = true →
      other.lastTainted = true → Twin (.blockComment start nesting) (.blockComment start other)

-- The second scan reads its cell and stays the twin of the first one, or it ends in a violation.
def StaysTwin (next other : State) (cell : Cell) : Prop :=
  (∃ kind offset, step dialect other cell = violation kind offset) ∨
    ∃ following, step dialect other cell = .ok following ∧ following.offset = next.offset ∧
      following.items = next.items ∧ Twin next.context following.context

theorem outside_tainted (separated : Bool) (offset : Nat) {cell : Cell}
    (htainted : cell.tainted = true) :
    outside separated offset cell = .value offset separated [cell.char] := by
  simp [outside, htainted]

variable {dialect}

theorem staysTwin_outside {next other : State} {cell second : Cell} {offset : Nat}
    {items : List Item} {separated : Bool} (hcell : cell.tainted = true)
    (hsecond : second.tainted = true)
    (hnext : next = ⟨offset + 1, outside separated offset cell, items⟩)
    (hother : step dialect other second =
      .ok ⟨offset + 1, outside separated offset second, items⟩) :
    StaysTwin dialect next other second := by
  refine .inr ⟨_, hother, ?_⟩
  rw [hnext, outside_tainted separated offset hcell, outside_tainted separated offset hsecond]
  exact ⟨rfl, rfl, .value offset separated [cell.char] [second.char]⟩

theorem staysTwin_enter {left right : Context} {offset : Nat} {cell : Cell} {items : List Item}
    {other : State} (htwin : Twin left right)
    (hother : step dialect other cell = .ok ⟨offset, right, items⟩) :
    StaysTwin dialect ⟨offset, left, items⟩ other cell :=
  .inr ⟨_, hother, rfl, rfl, htwin⟩

variable (dialect) {offset : Nat} {items : List Item} {cell second : Cell} {next : State}

theorem step_half_twin {start : Nat} {first : Char} (hcell : cell.tainted = true)
    (hsecond : second.tainted = true)
    (hok : step dialect ⟨offset, .half start first, items⟩ cell = .ok next) :
    StaysTwin dialect next ⟨offset, .half start first, items⟩ second := by
  simp only [step, hcell, if_true] at hok
  split at hok
  · cases hok
  · cases hother : opened? dialect first second.char start with
    | some comment =>
        refine .inl ⟨.commentDelimiter, offset, ?_⟩
        simp only [step, hother, hsecond, if_true]
    | none =>
        apply staysTwin_outside hcell hsecond (Except.ok.inj hok).symm
        simp only [step, hother]
        rfl

theorem step_value_twin {start : Nat} {separated : Bool} {read other : List Char}
    (htainted : second.tainted = cell.tainted) (hclean : cell.tainted = false → second = cell)
    (hok : step dialect ⟨offset, .value start separated read, items⟩ cell = .ok next) :
    StaysTwin dialect next ⟨offset, .value start separated other, items⟩ second := by
  cases hcell : cell.tainted with
  | true =>
      simp only [step, hcell, if_true] at hok
      cases hok
      apply staysTwin_enter (.value start separated (cell.char :: read) (second.char :: other))
      simp only [step, htainted, hcell, if_true, State.enter_mk]
  | false =>
      obtain rfl := hclean hcell
      simp only [step, hcell, Bool.false_eq_true, if_false, closeValue] at hok
      split at hok
      · cases hok
      · cases hok
        cases hfault : valueFault? separated other.reverse with
        | some kind =>
            refine .inl ⟨kind, start, ?_⟩
            simp only [step, hcell, Bool.false_eq_true, if_false, closeValue, hfault]
            rfl
        | none =>
            apply staysTwin_enter (.same _)
            simp only [step, hcell, Bool.false_eq_true, if_false, closeValue, hfault]
            rfl

-- What a tainted cell makes of a literal.
theorem step_literal_tainted {start : Nat} (htainted : cell.tainted = true) :
    step dialect ⟨offset, .literal start, items⟩ cell =
      if cell.char = '\'' then .ok ⟨offset + 1, .literalQuote start offset true, items⟩
      else if cell.char = '\x00' then violation .nullByte offset
      else .ok ⟨offset + 1, .literal start, items⟩ := by
  simp only [step, htainted, and_true, State.enter_mk]

theorem step_taintedQuote {start quote : Nat} (htainted : cell.tainted = true) :
    step dialect ⟨offset, .literalQuote start quote true, items⟩ cell =
      if cell.char = '\'' then .ok ⟨offset + 1, .literal start, items⟩
      else violation .closingQuote quote := by
  simp only [step, htainted, if_true, closeLiteral, State.enter_mk]
  rfl

-- Of two tainted cells one may be a quote and the other not: then half an escape lies between the
-- scans, and the quote is still to be doubled.
theorem step_literal_twin {start : Nat} (hcell : cell.tainted = true)
    (hsecond : second.tainted = true)
    (hok : step dialect ⟨offset, .literal start, items⟩ cell = .ok next) :
    StaysTwin dialect next ⟨offset, .literal start, items⟩ second := by
  rw [step_literal_tainted dialect hcell] at hok
  unfold StaysTwin
  rw [step_literal_tainted dialect hsecond]
  split
  · right
    split at hok
    · cases hok
      exact ⟨_, rfl, rfl, rfl, .same _⟩
    · split at hok <;> cases hok
      exact ⟨_, rfl, rfl, rfl, .behind start offset⟩
  · split
    · exact .inl ⟨_, _, rfl⟩
    · right
      split at hok
      · cases hok
        exact ⟨_, rfl, rfl, rfl, .ahead start offset⟩
      · split at hok <;> cases hok
        exact ⟨_, rfl, rfl, rfl, .same _⟩

-- After a tainted quote an accepted query can only go on with another one.
theorem step_ahead_twin {start quote : Nat} (htainted : second.tainted = cell.tainted)
    (hok : step dialect ⟨offset, .literalQuote start quote true, items⟩ cell = .ok next) :
    StaysTwin dialect next ⟨offset, .literal start, items⟩ second := by
  cases hcell : cell.tainted with
  | false =>
      simp only [step, hcell, closeLiteral, if_true, Bool.false_eq_true, if_false] at hok
      split at hok <;> cases hok
  | true =>
      rw [step_taintedQuote dialect hcell] at hok
      unfold StaysTwin
      rw [step_literal_tainted dialect (htainted.trans hcell)]
      split at hok
      · cases hok
        split
        · exact .inr ⟨_, rfl, rfl, rfl, .behind start offset⟩
        · split
          · exact .inl ⟨_, _, rfl⟩
          · exact .inr ⟨_, rfl, rfl, rfl, .same _⟩
      · cases hok

theorem step_behind_twin {start quote : Nat} (htainted : second.tainted = cell.tainted)
    (hok : step dialect ⟨offset, .literal start, items⟩ cell = .ok next) :
    StaysTwin dialect next ⟨offset, .literalQuote start quote true, items⟩ second := by
  cases hcell : cell.tainted with
  | false =>
      left
      rw [hcell] at htainted
      by_cases hquote : second.char = '\''
      · refine ⟨.mixedQuoteEscape, quote, ?_⟩
        simp only [step, hquote, htainted, if_true, Bool.false_eq_true, if_false]
      · refine ⟨.closingQuote, quote, ?_⟩
        simp only [step, hquote, if_false, closeLiteral, if_true]
        rfl
  | true =>
      rw [step_literal_tainted dialect hcell] at hok
      unfold StaysTwin
      rw [step_taintedQuote dialect (htainted.trans hcell)]
      split
      · right
        split at hok
        · cases hok
          exact ⟨_, rfl, rfl, rfl, .ahead start offset⟩
        · split at hok <;> cases hok
          exact ⟨_, rfl, rfl, rfl, .same _⟩
      · exact .inl ⟨_, _, rfl⟩

theorem step_literalQuote_twin {start quote : Nat} {tainted : Bool} (hcell : cell.tainted = true)
    (hsecond : second.tainted = true)
    (hok : step dialect ⟨offset, .literalQuote start quote tainted, items⟩ cell = .ok next) :
    StaysTwin dialect next ⟨offset, .literalQuote start quote tainted, items⟩ second := by
  cases tainted with
  | true =>
      rw [step_taintedQuote dialect hcell] at hok
      unfold StaysTwin
      rw [step_taintedQuote dialect hsecond]
      split at hok
      · cases hok
        split
        · exact .inr ⟨_, rfl, rfl, rfl, .same _⟩
        · exact .inl ⟨_, _, rfl⟩
      · cases hok
  | false =>
      simp only [step, hcell, closeLiteral, Bool.false_eq_true, if_false, Bool.true_eq_false,
        ok_bind] at hok
      split at hok
      · cases hok
      · by_cases hquote : second.char = '\''
        · refine .inl ⟨.mixedQuoteEscape, quote, ?_⟩
          simp only [step, hquote, hsecond, if_true, Bool.true_eq_false, if_false]
        · apply staysTwin_outside hcell hsecond (Except.ok.inj hok).symm
          simp only [step, hquote, if_false, closeLiteral, Bool.false_eq_true, ok_bind]
          rfl

theorem step_identifierQuote_twin {start : Nat} (hcell : cell.tainted = true)
    (hsecond : second.tainted = true)
    (hok : step dialect ⟨offset, .identifierQuote start, items⟩ cell = .ok next) :
    StaysTwin dialect next ⟨offset, .identifierQuote start, items⟩ second := by
  simp only [step, hcell, if_true] at hok
  split at hok
  · cases hok
  · by_cases hquote : second.char = '"'
    · refine .inl ⟨.identifier, offset, ?_⟩
      simp only [step, hquote, hsecond, if_true]
    · apply staysTwin_outside hcell hsecond (Except.ok.inj hok).symm
      simp only [step, hquote, if_false]
      rfl

theorem step_lineComment_twin {start : Nat} (hcell : cell.tainted = true)
    (hsecond : second.tainted = true)
    (hok : step dialect ⟨offset, .lineComment start, items⟩ cell = .ok next) :
    StaysTwin dialect next ⟨offset, .lineComment start, items⟩ second := by
  simp only [step, hcell, if_true] at hok
  split at hok <;> cases hok
  cases hend : isLineEnd second.char with
  | true =>
      refine .inl ⟨.lineTerminator, offset, ?_⟩
      simp only [step, hend, hsecond, if_true]
  | false =>
      apply staysTwin_enter (.same _)
      simp only [step, hend, Bool.false_eq_true, if_false, State.enter_mk]

-- A cell that is tainted or stands after a tainted one can only be read if no delimiter ends there.
theorem next_of_touched {nesting : Nesting} (htouched : nesting.touched cell = true)
    (hchange : nesting.taintedChange cell = false) :
    nesting.next cell = { nesting with half := .of cell.char, lastTainted := cell.tainted } := by
  have hnone : nesting.change cell.char = .none := by
    simpa [Nesting.taintedChange, htouched] using hchange
  simp only [Nesting.next, hnone]

theorem step_blockComment_twin {start : Nat} {nesting other : Nesting}
    (hnested : other.nested = nesting.nested) (hlevel : other.level = nesting.level)
    (hleft : nesting.touched cell = true) (hright : other.touched second = true)
    (htainted : second.tainted = cell.tainted) (hclean : cell.tainted = false → second = cell)
    (hok : step dialect ⟨offset, .blockComment start nesting, items⟩ cell = .ok next) :
    StaysTwin dialect next ⟨offset, .blockComment start other, items⟩ second := by
  cases hsecond : other.taintedChange second with
  | true =>
      refine .inl ⟨.nesting, offset, ?_⟩
      simp only [step, hsecond, if_true]
  | false =>
      cases hfirst : nesting.taintedChange cell with
      | true =>
          simp only [step, hfirst, if_true] at hok
          cases hok
      | false =>
          have hclosed : (other.next second).isClosed = (nesting.next cell).isClosed := by
            simp only [next_of_touched hleft hfirst, next_of_touched hright hsecond,
              Nesting.isClosed, hlevel]
          have htwin : Twin (.blockComment start (nesting.next cell))
              (.blockComment start (other.next second)) := by
            rw [next_of_touched hleft hfirst, next_of_touched hright hsecond]
            cases hcell : cell.tainted with
            | true => exact .blockComment _ _ _ hnested hlevel rfl (htainted.trans hcell)
            | false =>
                obtain rfl := hclean hcell
                rw [hnested, hlevel, hcell]
                exact .same _
          simp only [step, hfirst, Bool.false_eq_true, if_false] at hok
          unfold StaysTwin
          simp only [step, hsecond, Bool.false_eq_true, if_false, hclosed]
          split at hok
          · rename_i hdone
            cases hok
            simp only [hdone, if_true]
            exact .inr ⟨_, rfl, rfl, rfl, .same _⟩
          · rename_i hdone
            cases hok
            simp only [hdone, Bool.false_eq_true, if_false]
            exact .inr ⟨_, rfl, rfl, rfl, htwin⟩

theorem step_same_twin {context : Context} (hcell : cell.tainted = true)
    (hsecond : second.tainted = true)
    (hok : step dialect ⟨offset, context, items⟩ cell = .ok next) :
    StaysTwin dialect next ⟨offset, context, items⟩ second := by
  cases context with
  | code separated => exact staysTwin_outside hcell hsecond (Except.ok.inj hok).symm rfl
  | half start first => exact step_half_twin dialect hcell hsecond hok
  | value start separated read =>
      exact step_value_twin dialect (hsecond.trans hcell.symm) (by simp [hcell]) hok
  | literal start => exact step_literal_twin dialect hcell hsecond hok
  | literalQuote start quote tainted => exact step_literalQuote_twin dialect hcell hsecond hok
  | identifier start =>
      simp only [step, hcell, if_true] at hok
      cases hok
  | identifierQuote start => exact step_identifierQuote_twin dialect hcell hsecond hok
  | lineComment start => exact step_lineComment_twin dialect hcell hsecond hok
  | blockComment start nesting =>
      exact step_blockComment_twin dialect rfl rfl (by simp [Nesting.touched, hcell])
        (by simp [Nesting.touched, hsecond]) (hsecond.trans hcell.symm) (by simp [hcell]) hok

theorem step_twin {left right : Context} (h : Twin left right)
    (htainted : second.tainted = cell.tainted) (hclean : cell.tainted = false → second = cell)
    (hok : step dialect ⟨offset, left, items⟩ cell = .ok next) :
    StaysTwin dialect next ⟨offset, right, items⟩ second := by
  cases h with
  | same context =>
      cases hcell : cell.tainted with
      | true => exact step_same_twin dialect hcell (htainted.trans hcell) hok
      | false =>
          obtain rfl := hclean hcell
          exact .inr ⟨next, hok, rfl, rfl, .same _⟩
  | value start separated read other => exact step_value_twin dialect htainted hclean hok
  | ahead start quote => exact step_ahead_twin dialect htainted hok
  | behind start quote => exact step_behind_twin dialect htainted hok
  | blockComment start nesting other hnested hlevel hleft hright =>
      exact step_blockComment_twin dialect hnested hlevel (by simp [Nesting.touched, hleft])
        (by simp [Nesting.touched, hright]) htainted hclean hok

theorem finish_twin {left right : Context} {last : State} (h : Twin left right)
    (hok : finish ⟨offset, left, items⟩ = .ok last) :
    (∃ found, finish ⟨offset, right, items⟩ = .error (.violation found)) ∨
      ∃ other, finish ⟨offset, right, items⟩ = .ok other ∧ other.items = last.items := by
  cases h with
  | same context => exact .inr ⟨last, hok, rfl⟩
  | value start separated read other =>
      simp only [finish, closeValue] at hok ⊢
      cases hfault : valueFault? separated other.reverse with
      | some kind => exact .inl ⟨⟨kind, start⟩, rfl⟩
      | none =>
          split at hok <;> cases hok
          exact .inr ⟨_, rfl, rfl⟩
  | ahead start quote => cases hok
  | behind start quote => cases hok
  | blockComment start nesting other => cases hok

theorem complete_twin {left right : Context} (h : Twin left right) {text other : Text}
    (hreplaces : text.Replaces other) {result : List Item}
    (hok : complete dialect ⟨offset, left, items⟩ text = .ok result) :
    complete dialect ⟨offset, right, items⟩ other = .ok result ∨
      Violates dialect ⟨offset, right, items⟩ other := by
  induction text generalizing left right offset items other with
  | nil =>
      obtain rfl := hreplaces.nil
      unfold Violates
      rw [complete_nil] at hok ⊢
      cases hleft : finish ⟨offset, left, items⟩ with
      | error rejection =>
          rw [hleft] at hok
          cases hok
      | ok last =>
          rw [hleft] at hok
          cases hok
          rcases finish_twin h hleft with ⟨found, hfound⟩ | ⟨final, hfinal, hitems⟩
          · rw [hfound]
            exact .inr ⟨found, rfl⟩
          · rw [hfinal, ok_bind, hitems]
            exact .inl rfl
  | cons cell text ih =>
      obtain ⟨second, rest, rfl, htainted, hclean, hrest⟩ := hreplaces.cons
      rw [complete_cons] at hok
      cases hstep : step dialect ⟨offset, left, items⟩ cell with
      | error rejection =>
          rw [hstep] at hok
          cases hok
      | ok next =>
          rw [hstep, ok_bind] at hok
          rcases step_twin dialect h htainted hclean hstep with
            ⟨kind, place, hviolation⟩ | ⟨⟨offset', context', items'⟩, hother, rfl, rfl, htwin⟩
          · exact .inr (violates_of_step dialect hviolation rest)
          · rw [complete_cons, hother, violates_cons dialect hother]
            exact ih htwin hrest hok

end Scan

-- Accepting a query is accepting its items whatever the tainted characters are.
theorem scan_replaces (dialect : Dialect) (query other : Text) (incidents others : Incidents)
    (hreplaces : query.Replaces other)
    (haccepts : (validate dialect .reject query incidents).1 = .ok ()) :
    ∃ items, scan dialect query = .ok items ∧
      ((validate dialect .reject other others).1 = .ok () ∧ scan dialect other = .ok items ∨
        ∃ found, (validate dialect .reject other others).1 = .error (.violation found)) := by
  rw [validate_reject] at haccepts ⊢
  obtain ⟨items, hitems⟩ := (Scan.check_eq_ok_iff dialect query).mp haccepts
  have hcomplete := (Scan.scan_eq_ok_iff_complete dialect query items).mp hitems
  refine ⟨items, hitems, ?_⟩
  rcases Scan.complete_twin dialect (.same (.code true)) hreplaces hcomplete with
    hsame | ⟨found, hfound⟩
  · have hother := (Scan.scan_eq_ok_iff_complete dialect other items).mpr hsame
    exact .inl ⟨(Scan.check_eq_ok_iff dialect other).mpr ⟨items, hother⟩, hother⟩
  · exact .inr ⟨found, (Scan.check_eq_error_iff dialect other _).mpr hfound⟩

-- A doubled quote in a literal and a number after it against ordinary characters and a longer word.
theorem scan_replaces_quotes :
    let query : Text := .uniform false ['\''] ++ .uniform true ['\'', '\''] ++
      .uniform false ['\'', ','] ++ .uniform true ['1', 'e', '1', '0']
    let other : Text := .uniform false ['\''] ++ .uniform true ['a', '-'] ++
      .uniform false ['\'', ','] ++ .uniform true ['T', 'r', 'u', 'e']
    (query.Replaces other ∧ (validate ⟨false⟩ .reject query .none).1 = .ok ()) ∧
      ∃ items, scan ⟨false⟩ query = .ok items ∧
        ((validate ⟨false⟩ .reject other .none).1 = .ok () ∧ scan ⟨false⟩ other = .ok items ∨
          ∃ found, (validate ⟨false⟩ .reject other .none).1 = .error (.violation found)) := by
  intro query other
  have hreplaces : query.Replaces other := by
    have hnil : Text.Replaces [] [] := ⟨rfl, fun _ _ h => by simp at h⟩
    repeat' apply Text.Replaces.extend
    all_goals first | exact hnil | decide
  have haccepts : (validate ⟨false⟩ .reject query .none).1 = .ok () := rfl
  exact ⟨⟨hreplaces, haccepts⟩, scan_replaces ⟨false⟩ query other .none .none hreplaces haccepts⟩

end QueryTaint
