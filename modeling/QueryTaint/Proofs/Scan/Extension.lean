import QueryTaint.Proofs.Scan.Clearing
import QueryTaint.Proofs.Scan.Translation

namespace QueryTaint

namespace Scan

variable (dialect : Dialect)

theorem exists_last_step {state reached : State} {cells : Text} {cell : Cell}
    (hlast : cells.getLast? = some cell) (h : run dialect state cells = .ok reached) :
    ∃ before, step dialect before cell = .ok reached := by
  obtain ⟨front, rfl⟩ := List.getLast?_eq_some_iff.mp hlast
  rw [run_append] at h
  obtain ⟨before, -, hcell⟩ := bind_eq_ok_iff.mp h
  rw [run_cons] at hcell
  obtain ⟨next, hstep, hnil⟩ := bind_eq_ok_iff.mp hcell
  cases hnil
  exact ⟨before, hstep⟩

-- With a clean last cell it is the run that finds the violation: the end of the query has no say
-- in it, and so neither has what comes in place of the end.
theorem complete_violation_append {query : Text} {last : Cell} (more : Text) {found : Violation}
    {state : State} (hlast : query.getLast? = some last) (hcell : last.tainted = false)
    (h : complete dialect state query = .error (.violation found)) :
    complete dialect state (query ++ more) = .error (.violation found) := by
  rw [complete_append]
  unfold complete at h
  cases hrun : run dialect state query with
  | error rejection =>
      rw [hrun] at h
      exact h
  | ok reached =>
      obtain ⟨before, hstep⟩ := exists_last_step dialect hlast hrun
      have hfinish := finish_clean_ne_violation (clean_of_step dialect hcell hstep) found
      rw [hrun, ok_bind] at h
      cases hend : finish reached with
      | error rejection =>
          rw [hend] at h hfinish
          cases h
          exact absurd rfl hfinish
      | ok final =>
          rw [hend] at h
          cases h

theorem offset_of_step {state next : State} {cell : Cell} (h : step dialect state cell = .ok next) :
    next.offset = state.offset + 1 := by
  obtain ⟨offset, context, items⟩ := state
  obtain ⟨reached, item, -, rfl⟩ := passes_of_step h
  rfl

theorem offset_of_run {state last : State} {cells : Text} (h : run dialect state cells = .ok last) :
    last.offset = state.offset + cells.length := by
  induction cells generalizing state with
  | nil =>
      cases h
      rfl
  | cons cell cells ih =>
      rw [run_cons] at h
      obtain ⟨next, hstep, hrun⟩ := bind_eq_ok_iff.mp h
      have hnext := offset_of_step dialect hstep
      have hlast := ih hrun
      rw [List.length_cons]
      omega

theorem outside_lineEnd (separated : Bool) (offset : Nat) {ending : Char}
    (hend : ending = '\r' ∨ ending = '\n') :
    outside separated offset ⟨ending, false⟩ = .code true := by
  rcases hend with rfl | rfl <;> rfl

-- A clean line end leads outside of every item, or it leaves something open that the end of the
-- query does not close.
theorem context_of_lineEnd {state next : State} {ending : Char}
    (hend : ending = '\r' ∨ ending = '\n') (h : step dialect state ⟨ending, false⟩ = .ok next) :
    next.context = .code true ∨
      ∃ construct start, finish next = .error (.malformed construct start) := by
  have houtside := fun separated offset => outside_lineEnd separated offset hend
  have hquote : ending ≠ '\'' := by rintro rfl; simp at hend
  have hmark : ending ≠ '"' := by rintro rfl; simp at hend
  obtain ⟨offset, context, items⟩ := state
  obtain ⟨reached, item, hpasses, rfl⟩ := passes_of_step h
  cases hpasses with
  | code separated => exact .inl (houtside separated offset)
  | noOpener _ _ _ => exact .inl (houtside true offset)
  | opener start first comment hopened _ =>
      have hopens : opensComment first ending = false := by
        rcases hend with rfl | rfl <;> simp [opensComment]
      rw [(opened?_eq_none_iff dialect first ending start).mpr hopens] at hopened
      cases hopened
  | valueChar _ _ _ htainted => cases htainted
  | afterValue _ _ _ _ _ => exact .inl (houtside false offset)
  | literalChar _ _ _ => exact .inr ⟨_, _, rfl⟩
  | literalQuote _ heq => exact absurd heq hquote
  | literalPair _ _ heq => exact absurd heq hquote
  | afterLiteral _ _ _ => exact .inl (houtside false offset)
  | identifierChar _ _ _ => exact .inr ⟨_, _, rfl⟩
  | identifierQuote _ heq => exact absurd (congrArg Cell.char heq) hmark
  | identifierPair _ heq => exact absurd (congrArg Cell.char heq) hmark
  | afterIdentifier _ _ => exact .inl (houtside false offset)
  | lineChar _ hinside =>
      rw [isLineEnd_iff.mpr hend] at hinside
      cases hinside
  | lineEnd _ _ _ => exact .inl rfl
  | blockChar _ _ _ _ => exact .inr ⟨_, _, rfl⟩
  | blockEnd _ _ _ _ => exact .inl rfl

-- An accepted query that ends in a clean line end leaves the scanner where a query begins.
theorem run_of_lineEnd {query : Text} {ending : Char} {items : List Item}
    (hlast : query.getLast? = some ⟨ending, false⟩) (hend : ending = '\r' ∨ ending = '\n')
    (haccepts : complete dialect .start query = .ok items) :
    run dialect .start query = .ok (State.start.behind query.length items) := by
  unfold complete at haccepts
  obtain ⟨reached, hrun, hfinish⟩ := bind_eq_ok_iff.mp haccepts
  obtain ⟨before, hstep⟩ := exists_last_step dialect hlast hrun
  have hoffset := offset_of_run dialect hrun
  obtain ⟨offset, context, found⟩ := reached
  rcases context_of_lineEnd dialect hend hstep with hcode | ⟨construct, start, hopen⟩
  · obtain rfl : context = .code true := hcode
    obtain rfl : offset = 0 + query.length := hoffset
    cases hfinish
    rw [hrun, Nat.zero_add]
    rfl
  · rw [hopen] at hfinish
    cases hfinish

-- The items of the whole are those of the two parts.
theorem complete_after_lineEnd {query : Text} {ending : Char} {items : List Item} (more : Text)
    (hlast : query.getLast? = some ⟨ending, false⟩) (hend : ending = '\r' ∨ ending = '\n')
    (haccepts : complete dialect .start query = .ok items) :
    complete dialect .start (query ++ more) =
      moved query.length (fun found => found.map (·.shift query.length) ++ items)
        (complete dialect .start more) := by
  rw [complete_append, run_of_lineEnd dialect hlast hend haccepts, ok_bind, complete_behind]

end Scan

-- More text does not cure a violation. What could still change it is a tainted last cell: a run may
-- go on to become a value, and a quote may be doubled.
theorem violation_stays (dialect : Dialect) (query more : Text) (incidents others : Incidents)
    {last : Cell} {found : Violation} (hlast : query.getLast? = some last)
    (hclean : last.tainted = false)
    (hviolation : (validate dialect .reject query incidents).1 = .error (.violation found)) :
    (validate dialect .reject (query ++ more) others).1 = .error (.violation found) := by
  rw [validate_reject, Scan.check_eq_error_iff] at hviolation ⊢
  exact Scan.complete_violation_append dialect more hlast hclean hviolation

-- An escape of a tainted and a clean quote; with the quote behind it there would be two escapes.
theorem violation_stays_escape :
    let query : Text := .uniform false ['\''] ++ .uniform true ['\''] ++ .uniform false ['\'']
    let more : Text := .uniform true ['\''] ++ .uniform false ['\'']
    query.getLast? = some ⟨'\'', false⟩ ∧
      (validate ⟨false⟩ .reject query .none).1 = .error (.violation ⟨.mixedQuoteEscape, 1⟩) ∧
      (validate ⟨false⟩ .reject (query ++ more) .none).1 =
        .error (.violation ⟨.mixedQuoteEscape, 1⟩) := by
  intro query more
  have hlast : query.getLast? = some ⟨'\'', false⟩ := rfl
  have hviolation : (validate ⟨false⟩ .reject query .none).1 =
      .error (.violation ⟨.mixedQuoteEscape, 1⟩) := rfl
  exact ⟨hlast, hviolation, violation_stays ⟨false⟩ query more .none .none hlast rfl hviolation⟩

-- A tainted last cell: `1e` is no value, and `1e5` is one.
example :
    check ⟨false⟩ (.uniform true ['1', 'e']) = .error (.violation ⟨.invalidValue, 0⟩) ∧
      check ⟨false⟩ (.uniform true ['1', 'e'] ++ .uniform true ['5']) = .ok () :=
  ⟨rfl, rfl⟩

-- Behind an accepted query with a clean line end at its end the verdict is that on the rest, moved
-- to its place.
theorem validate_after_lineEnd (dialect : Dialect) (first second : Text)
    (incidents others more : Incidents) {ending : Char}
    (hlast : first.getLast? = some ⟨ending, false⟩) (hend : ending = '\r' ∨ ending = '\n')
    (haccepts : (validate dialect .reject first incidents).1 = .ok ()) :
    (validate dialect .reject (first ++ second) others).1 =
        (validate dialect .reject second more).1.mapError (·.shift first.length) ∧
      ((validate dialect .reject (first ++ second) others).1 = .ok () ↔
        (validate dialect .reject second more).1 = .ok ()) := by
  simp only [validate_reject] at haccepts ⊢
  obtain ⟨items, hitems⟩ := (Scan.check_eq_ok_iff dialect first).mp haccepts
  have hfirst := (Scan.scan_eq_ok_iff_complete dialect first items).mp hitems
  have hboth := Scan.complete_after_lineEnd dialect second hlast hend hfirst
  rw [Scan.check_eq_complete, Scan.check_eq_complete, hboth]
  cases Scan.complete dialect .start second with
  | error rejection =>
      refine ⟨rfl, ?_⟩
      constructor <;> intro h <;> cases h
  | ok found => exact ⟨rfl, Iff.rfl⟩

-- A literal, a value and a comment, and then a value at the start of a line and a literal that is
-- not closed.
theorem validate_after_lineEnd_comment :
    let first : Text := .uniform false ['\'', '\'', '='] ++ .uniform true ['1'] ++
      .uniform false ['-', '-'] ++ .uniform true ['x'] ++ .uniform false ['\n']
    let second : Text := .uniform true ['T', 'r', 'u', 'e'] ++ .uniform false [',', '\'']
    first.getLast? = some ⟨'\n', false⟩ ∧
      (validate ⟨false⟩ .reject first .none).1 = .ok () ∧
      (validate ⟨false⟩ .reject (first ++ second) .none).1 =
        (validate ⟨false⟩ .reject second .none).1.mapError (·.shift first.length) ∧
      (validate ⟨false⟩ .reject (first ++ second) .none).1 =
        .error (.malformed "string literal" 13) := by
  intro first second
  have hlast : first.getLast? = some ⟨'\n', false⟩ := rfl
  have haccepts : (validate ⟨false⟩ .reject first .none).1 = .ok () := rfl
  obtain ⟨hmoved, -⟩ :=
    validate_after_lineEnd ⟨false⟩ first second .none .none .none hlast (.inr rfl) haccepts
  exact ⟨hlast, haccepts, hmoved, hmoved.trans rfl⟩

end QueryTaint
