import QueryTaint.Proofs.Lexis.Nesting
import QueryTaint.Proofs.Text.Positions
import QueryTaint.Proofs.Scan.Grammar
import QueryTaint.Proofs.Scan.Plain
import QueryTaint.Proofs.Scan.Extension

namespace QueryTaint

-- What the query shows at the place of a violation.
def Violation.Evident (dialect : Dialect) (query : Text) : Violation → Prop
  | ⟨.invalidValue, offset⟩ =>
    query.taintedAt offset = true ∧
      ∃ run, query.slice offset (query.runEnd offset) = .ok run ∧ isValue run.chars = false
  | ⟨.unseparatedValue, offset⟩ =>
    query.taintedAt offset = true ∧
      ∃ last, query.before? offset = some last ∧ last.isBoundary = false
  | ⟨.commentDelimiter, offset⟩ =>
    ∃ first second, query.before? offset = some ⟨first, false⟩ ∧
      query[offset]? = some ⟨second, true⟩ ∧ Scan.opensComment first second = true
  | ⟨.mixedQuoteEscape, offset⟩ =>
    ∃ first second, query[offset]? = some ⟨'\'', first⟩ ∧
      query[offset + 1]? = some ⟨'\'', second⟩ ∧ first ≠ second
  | ⟨.closingQuote, offset⟩ =>
    query[offset]? = some ⟨'\'', true⟩ ∧ ∀ next ∈ query[offset + 1]?, next.char ≠ '\''
  | ⟨.nullByte, offset⟩ => query[offset]? = some ⟨'\x00', true⟩
  | ⟨.identifier, offset⟩ =>
    query.taintedAt offset = true ∧
      ∃ start < offset, query[start]? = some ⟨'"', false⟩ ∧
        ∀ index, start < index → index < offset → query.taintedAt index = false
  | ⟨.lineTerminator, offset⟩ =>
    ∃ ending, query[offset]? = some ⟨ending, true⟩ ∧ (ending = '\r' ∨ ending = '\n')
  | ⟨.nesting, offset⟩ =>
    ∃ first second, query.before? offset = some first ∧ query[offset]? = some second ∧
      Grammar.delimits dialect.nestedComments first.char second.char = true ∧
      (first.tainted = true ∨ second.tainted = true)

namespace Scan

variable (dialect : Dialect)

-- What has been read, as the context tells it.
inductive Tracks : Text → Context → Prop where
  | code (read : Text) : Tracks read (.code (separates read.getLast?))
  | half (read : Text) (start : Nat) (first : Char) :
    first = '-' ∨ first = '/' → Tracks (read ++ [⟨first, false⟩]) (.half start first)
  | value (left run : Text) (chars : List Char) :
    run ≠ [] → (∀ cell ∈ run, cell.tainted = true) → chars.reverse = run.chars →
      Tracks (left ++ run) (.value left.length (separates left.getLast?) chars)
  | literal (read : Text) (start : Nat) : Tracks read (.literal start)
  | literalQuote (left : Text) (start : Nat) (tainted : Bool) :
    Tracks (left ++ [⟨'\'', tainted⟩]) (.literalQuote start left.length tainted)
  | identifier (left inside : Text) (start : Nat) :
    (∀ cell ∈ inside, cell.tainted = false) →
      Tracks (left ++ ⟨'"', false⟩ :: inside) (.identifier start)
  | identifierQuote (left inside : Text) (start : Nat) :
    (∀ cell ∈ inside, cell.tainted = false) →
      Tracks (left ++ ⟨'"', false⟩ :: (inside ++ [⟨'"', false⟩])) (.identifierQuote start)
  | lineComment (read : Text) (start : Nat) : Tracks read (.lineComment start)
  | blockComment (read : Text) (last : Cell) (start : Nat) (nesting : Nesting) :
    nesting.nested = dialect.nestedComments → nesting.level ≠ 0 → nesting.Remembers last →
      Tracks (read ++ [last]) (.blockComment start nesting)

theorem tracks_outside (read : Text) (cell : Cell) :
    Tracks dialect (read ++ [cell]) (outside (separates read.getLast?) read.length cell) := by
  obtain ⟨char, tainted⟩ := cell
  cases tainted with
  | true => exact .value read [⟨char, true⟩] [char] (by simp) (by simp) rfl
  | false =>
      by_cases hquote : char = '\''
      · subst hquote
        exact .literal _ read.length
      by_cases hmark : char = '"'
      · subst hmark
        exact .identifier read [] read.length (by simp)
      rw [outside_plain _ _ _ rfl hquote hmark]
      by_cases hhalf : char = '-' ∨ char = '/'
      · rw [if_pos hhalf]
        exact .half read read.length char hhalf
      · rw [if_neg hhalf]
        have hcode := @Tracks.code dialect (read ++ [⟨char, false⟩])
        rwa [List.getLast?_concat] at hcode

theorem tracks_code {read : Text} {cell : Cell} (h : separates (some cell) = true) :
    Tracks dialect (read ++ [cell]) (.code true) := by
  have hcode := @Tracks.code dialect (read ++ [cell])
  rwa [List.getLast?_concat, h] at hcode

theorem separates_half {read : Text} {first : Char} (h : first = '-' ∨ first = '/') :
    separates (read ++ [⟨first, false⟩] : Text).getLast? = true := by
  rw [List.getLast?_concat]
  rcases h with rfl | rfl <;> rfl

-- The cell after a comment opener, an item or a value is read like one outside.
theorem tracks_outside_of_last {read : Text} (cell : Cell) {separated : Bool}
    (h : separates read.getLast? = separated) :
    Tracks dialect (read ++ [cell]) (outside separated read.length cell) := by
  rw [← h]
  exact tracks_outside dialect read cell

theorem tracks_step {read : Text} {context : Context} {items : List Item} {cell : Cell}
    {next : State} (h : Tracks dialect read context)
    (hstep : step dialect ⟨read.length, context, items⟩ cell = .ok next) :
    Tracks dialect (read ++ [cell]) next.context := by
  obtain ⟨reached, item, hpasses, rfl⟩ := passes_of_step hstep
  cases hpasses with
  | code separated =>
      cases h
      exact tracks_outside dialect read cell
  | noOpener start first _ =>
      cases h with
      | half read _ _ hfirst => exact tracks_outside_of_last dialect cell (separates_half hfirst)
  | opener start first comment hopened _ =>
      unfold opened? at hopened
      split at hopened
      · cases hopened
        exact .lineComment _ start
      · split at hopened <;> cases hopened
        exact .blockComment read cell start _ rfl (by simp [Nesting.opened]) (.inl rfl)
  | valueChar start separated chars htainted =>
      cases h with
      | value left run _ hne hrun hchars =>
          rw [List.append_assoc]
          refine .value left (run ++ [cell]) _ (by simp) ?_ ?_
          · simpa [or_imp, forall_and] using And.intro hrun htainted
          · rw [List.reverse_cons, hchars, Text.chars_append]
            rfl
  | afterValue start separated chars _ _ =>
      cases h with
      | value left run _ hne hrun hchars =>
          exact tracks_outside_of_last dialect cell (separates_after_run left hne hrun)
  | literalChar start _ _ => exact .literal _ start
  | literalQuote start hquote =>
      obtain ⟨char, tainted⟩ := cell
      obtain rfl : char = '\'' := hquote
      exact .literalQuote read start tainted
  | literalPair start quote _ => exact .literal _ start
  | afterLiteral start quote _ =>
      cases h with
      | literalQuote left _ _ =>
          refine tracks_outside_of_last dialect cell ?_
          rw [List.getLast?_concat]
          rfl
  | identifierChar start _ hclean =>
      cases h with
      | identifier left inside _ hinside =>
          rw [List.append_assoc, List.cons_append]
          refine .identifier left (inside ++ [cell]) start ?_
          simpa [or_imp, forall_and] using And.intro hinside hclean
  | identifierQuote start hquote =>
      cases h with
      | identifier left inside _ hinside =>
          rw [List.append_assoc, List.cons_append, hquote]
          exact .identifierQuote left inside start hinside
  | identifierPair start hquote =>
      cases h with
      | identifierQuote left inside _ hinside =>
          rw [List.append_assoc, List.cons_append, hquote]
          refine .identifier left _ start ?_
          simpa [or_imp, forall_and] using hinside
  | afterIdentifier start _ =>
      cases h with
      | identifierQuote left inside _ _ =>
          refine tracks_outside_of_last dialect cell ?_
          rw [← List.cons_append, ← List.append_assoc, List.getLast?_concat]
          rfl
  | lineChar start _ => exact .lineComment _ start
  | lineEnd start hend hclean =>
      obtain ⟨char, tainted⟩ := cell
      obtain rfl : tainted = false := hclean
      exact tracks_code dialect (separates_lineEnd hend)
  | blockChar start nesting _ hopen =>
      cases h with
      | blockComment left last _ _ hnested _ _ =>
          refine .blockComment _ cell start _ ?_ (by simpa [Nesting.isClosed] using hopen)
            (Nesting.remembers_next nesting cell)
          rw [Nesting.nested_next, hnested]
  | blockEnd start nesting hclean hclosed =>
      cases h with
      | blockComment left last _ _ _ hlevel _ =>
          rw [Nesting.eq_slash_of_isClosed hlevel hclosed hclean]
          exact tracks_code dialect rfl

-- Where the scanner stops, the query shows why, whatever comes behind.

variable {found : Violation}

theorem evident_run {left run rest : Text} {chars : List Char} {kind : ViolationKind}
    (hne : run ≠ []) (hrun : ∀ cell ∈ run, cell.tainted = true) (hchars : chars.reverse = run.chars)
    (hrest : ∀ next ∈ rest.head?, next.tainted = false)
    (hfault : valueFault? (separates left.getLast?) chars.reverse = some kind) :
    Violation.Evident dialect (left ++ (run ++ rest)) ⟨kind, left.length⟩ := by
  have htainted : (left ++ (run ++ rest)).taintedAt left.length = true := by
    obtain ⟨first, more, rfl⟩ := List.exists_cons_of_ne_nil hne
    rw [List.cons_append, Text.taintedAt_append]
    exact hrun first (by simp)
  unfold valueFault? at hfault
  cases hseparates : separates left.getLast? with
  | false =>
      rw [hseparates] at hfault
      cases hfault
      refine ⟨htainted, ?_⟩
      rw [Text.before?_append]
      cases hlast : left.getLast? with
      | none =>
          rw [hlast] at hseparates
          cases hseparates
      | some last =>
          rw [hlast] at hseparates
          exact ⟨last, rfl, hseparates⟩
  | true =>
      rw [hseparates, hchars] at hfault
      cases hvalue : isValue run.chars with
      | true =>
          rw [hvalue] at hfault
          cases hfault
      | false =>
          rw [hvalue] at hfault
          cases hfault
          refine ⟨htainted, run, ?_, hvalue⟩
          rw [Text.runEnd_append left hrun hrest, Text.slice_append]

theorem evident_closingQuote {left rest : Text} (hrest : ∀ next ∈ rest.head?, next.char ≠ '\'') :
    Violation.Evident dialect (left ++ ⟨'\'', true⟩ :: rest) ⟨.closingQuote, left.length⟩ := by
  refine ⟨Text.getElem?_append left _ rest, ?_⟩
  rw [Text.getElem?_succ_append]
  exact hrest

-- A tainted cell in an identifier, behind the opening quote and clean cells.
theorem evident_identifier (left inside rest : Text) {cell : Cell}
    (hinside : ∀ other ∈ inside, other.tainted = false) (htainted : cell.tainted = true) :
    Violation.Evident dialect (left ++ ⟨'"', false⟩ :: inside ++ cell :: rest)
      ⟨.identifier, (left ++ ⟨'"', false⟩ :: inside).length⟩ := by
  refine ⟨?_, left.length, ?_, ?_, ?_⟩
  · rw [Text.taintedAt_append, htainted]
  · simp
  · rw [List.append_assoc, List.cons_append, Text.getElem?_append]
  · intro index hafter hbefore
    have hplace : (left ++ ⟨'"', false⟩ :: inside ++ cell :: rest)[index]? =
        inside[index - left.length - 1]? := by
      rw [List.length_append, List.length_cons] at hbefore
      rw [List.append_assoc, List.getElem?_append_right (by omega), List.cons_append,
        List.getElem?_cons, if_neg (by omega), List.getElem?_append_left (by omega)]
    unfold Text.taintedAt
    rw [hplace]
    cases hother : inside[index - left.length - 1]? with
    | none => rfl
    | some other => exact hinside other (List.mem_of_getElem? hother)

theorem delimits_of_change {nesting : Nesting} {last cell : Cell}
    (hnested : nesting.nested = dialect.nestedComments) (hremembers : nesting.Remembers last)
    (hchange : nesting.change cell.char ≠ .none) :
    nesting.lastTainted = last.tainted ∧
      Grammar.delimits dialect.nestedComments last.char cell.char = true := by
  rcases hremembers with hnone | ⟨hhalf, hlast⟩
  · simp [Nesting.change, hnone] at hchange
  · refine ⟨hlast, ?_⟩
    rw [← hnested, ← Bool.not_eq_false, ← change_after nesting.nested nesting.level last cell.char]
    simpa only [Nesting.change, hhalf] using hchange

theorem evident_of_step {read : Text} {context : Context} {items : List Item} {cell : Cell}
    (h : Tracks dialect read context)
    (hstep : step dialect ⟨read.length, context, items⟩ cell = .error (.violation found))
    (rest : Text) : found.Evident dialect (read ++ cell :: rest) := by
  obtain ⟨_, hfound, hrefuses⟩ := refuses_of_step hstep
  cases hfound
  cases hrefuses with
  | opener start first hopens htainted =>
      cases h with
      | half left _ _ _ =>
          refine ⟨first, cell.char, ?_, ?_, hopens⟩
          · rw [Text.before?_append, List.getLast?_concat]
          · rw [Text.getElem?_append, ← htainted]
  | afterValue start separated chars kind hclean hfault =>
      cases h with
      | value left run _ hne hrun hchars =>
          have hrest : ∀ next ∈ (cell :: rest).head?, next.tainted = false := by simpa using hclean
          rw [List.append_assoc]
          exact evident_run dialect hne hrun hchars hrest hfault
  | literalChar start hnull =>
      rw [hnull]
      exact Text.getElem?_append read _ rest
  | literalPair start quote tainted hquote =>
      cases h with
      | literalQuote left _ _ =>
          rw [List.append_assoc, List.singleton_append]
          refine ⟨tainted, !tainted, Text.getElem?_append left _ _, ?_, by simp⟩
          rw [Text.getElem?_succ_append, hquote]
          rfl
  | afterLiteral start quote hquote =>
      cases h with
      | literalQuote left _ _ =>
          have hrest : ∀ next ∈ (cell :: rest).head?, next.char ≠ '\'' := by simpa using hquote
          rw [List.append_assoc, List.singleton_append]
          exact evident_closingQuote dialect hrest
  | identifier start htainted =>
      cases h with
      | identifier left inside _ hinside =>
          exact evident_identifier dialect left inside rest hinside htainted
  | identifierPair start hquote =>
      cases h with
      | identifierQuote left inside _ hinside =>
          refine evident_identifier dialect left _ rest ?_ (congrArg Cell.tainted hquote)
          simpa [or_imp, forall_and] using hinside
  | lineEnd start hend htainted =>
      refine ⟨cell.char, ?_, isLineEnd_iff.mp hend⟩
      rw [Text.getElem?_append, ← htainted]
  | block start nesting hchange htouched =>
      cases h with
      | blockComment left last _ _ hnested _ hremembers =>
          obtain ⟨hlast, hdelimits⟩ := delimits_of_change dialect hnested hremembers hchange
          rw [Nesting.touched, Bool.or_eq_true, hlast] at htouched
          refine ⟨last, cell, ?_, Text.getElem?_append _ _ _, hdelimits, htouched.symm⟩
          rw [Text.before?_append, List.getLast?_concat]

-- What is still open at the end is a run or a quote, and the end is as good as a clean cell.
theorem evident_of_finish {read : Text} {context : Context} {items : List Item}
    (h : Tracks dialect read context)
    (hfinish : finish ⟨read.length, context, items⟩ = .error (.violation found)) :
    found.Evident dialect read := by
  cases h with
  | value left run chars hne hrun hchars =>
      simp only [finish, closeValue] at hfinish
      cases hfault : valueFault? (separates left.getLast?) chars.reverse with
      | none =>
          rw [hfault] at hfinish
          cases hfinish
      | some kind =>
          rw [hfault] at hfinish
          cases hfinish
          have hend : ∀ next ∈ ([] : Text).head?, next.tainted = false := by simp
          have hevident := evident_run dialect hne hrun hchars hend hfault
          rwa [List.append_nil] at hevident
  | literalQuote left start tainted =>
      cases tainted with
      | false => cases hfinish
      | true =>
          cases hfinish
          have hend : ∀ next ∈ ([] : Text).head?, next.char ≠ '\'' := by simp
          exact evident_closingQuote dialect hend
  | _ => cases hfinish

theorem evident_of_complete {read cells : Text} {context : Context} {items : List Item}
    (h : Tracks dialect read context)
    (hcomplete : complete dialect ⟨read.length, context, items⟩ cells =
      .error (.violation found)) :
    found.Evident dialect (read ++ cells) := by
  induction cells generalizing read context items with
  | nil =>
      rw [complete_nil] at hcomplete
      rw [List.append_nil]
      cases hfinish : finish ⟨read.length, context, items⟩ with
      | ok last =>
          rw [hfinish] at hcomplete
          cases hcomplete
      | error rejection =>
          rw [hfinish] at hcomplete
          cases hcomplete
          exact evident_of_finish dialect h hfinish
  | cons cell cells ih =>
      rw [complete_cons] at hcomplete
      cases hstep : step dialect ⟨read.length, context, items⟩ cell with
      | error rejection =>
          rw [hstep] at hcomplete
          cases hcomplete
          exact evident_of_step dialect h hstep cells
      | ok next =>
          have htracks := tracks_step dialect h hstep
          have hoffset : next.offset = (read ++ [cell]).length := by
            rw [offset_of_step dialect hstep, List.length_append]
            rfl
          obtain ⟨offset, context', items'⟩ := next
          obtain rfl : offset = (read ++ [cell]).length := hoffset
          rw [hstep, ok_bind] at hcomplete
          have hevident := ih htracks hcomplete
          rwa [List.append_assoc] at hevident

end Scan

theorem Violation.Evident.offset_lt {dialect : Dialect} {query : Text} {found : Violation}
    (h : found.Evident dialect query) : found.offset < query.length := by
  obtain ⟨kind, offset⟩ := found
  cases kind with
  | invalidValue | unseparatedValue | identifier => exact Text.length_of_taintedAt h.1
  | commentDelimiter =>
      obtain ⟨first, second, -, hcell, -⟩ := h
      exact (List.getElem?_eq_some_iff.mp hcell).1
  | mixedQuoteEscape =>
      obtain ⟨first, second, hcell, -⟩ := h
      exact (List.getElem?_eq_some_iff.mp hcell).1
  | closingQuote => exact (List.getElem?_eq_some_iff.mp h.1).1
  | nullByte => exact (List.getElem?_eq_some_iff.mp h).1
  | lineTerminator =>
      obtain ⟨ending, hcell, -⟩ := h
      exact (List.getElem?_eq_some_iff.mp hcell).1
  | nesting =>
      obtain ⟨first, second, -, hcell, -⟩ := h
      exact (List.getElem?_eq_some_iff.mp hcell).1

-- Every violation has its evidence in the query, at the place that is reported.
theorem violation_evident (dialect : Dialect) (query : Text) (incidents : Incidents)
    {found : Violation}
    (hviolation : (validate dialect .reject query incidents).1 = .error (.violation found)) :
    found.offset < query.length ∧ found.Evident dialect query := by
  rw [validate_reject, Scan.check_eq_error_iff] at hviolation
  have hevident : found.Evident dialect ([] ++ query) :=
    Scan.evident_of_complete dialect (.code []) hviolation
  rw [List.nil_append] at hevident
  exact ⟨hevident.offset_lt, hevident⟩

-- A nested comment that a tainted star and a clean slash would close: the place is that of the
-- slash, and the tainted half stands before it.
theorem violation_evident_nesting :
    let query : Text := .uniform false ['/', '*', '/', '*'] ++ .uniform true ['x', '*'] ++
      .uniform false ['/', '*', '/']
    (validate ⟨true⟩ .reject query .none).1 = .error (.violation ⟨.nesting, 6⟩) ∧
      6 < query.length ∧ Violation.Evident ⟨true⟩ query ⟨.nesting, 6⟩ := by
  intro query
  have hviolation : (validate ⟨true⟩ .reject query .none).1 =
      .error (.violation ⟨.nesting, 6⟩) := rfl
  exact ⟨hviolation, violation_evident ⟨true⟩ query .none hviolation⟩

end QueryTaint
