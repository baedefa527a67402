import Mathlib.Data.List.Induction
import QueryTaint.Proofs.Scan.Grammar
import QueryTaint.Validator

namespace QueryTaint

namespace Scan

open Grammar

variable (dialect : Dialect)

-- A quote and the character after it are looked at together, so the inductions go over two cells.

theorem exists_literalBody (offset start : Nat) (items : List Item) (cells : Text)
    {result : List Item}
    (hok : complete dialect ⟨offset, .literal start, items⟩ cells = .ok result) :
    ∃ body rest, cells = body ++ ⟨'\'', false⟩ :: rest ∧ LiteralBody body ∧
      ∀ next ∈ rest.head?, next.char ≠ '\'' := by
  induction cells using List.twoStepInduction generalizing offset with
  | nil => cases hok
  | singleton cell =>
      obtain ⟨char, tainted⟩ := cell
      by_cases hquote : char = '\''
      · subst hquote
        cases tainted with
        | false => exact ⟨[], [], rfl, .nil, by simp⟩
        | true => cases hok
      · by_cases hnull : char = '\x00' ∧ tainted = true
        · simp [complete_cons, step, hnull, violation] at hok
        · rw [complete_literalChar dialect _ _ _ _ _ hquote hnull] at hok
          cases hok
  | cons_cons cell next cells ih ihNext =>
      obtain ⟨char, tainted⟩ := cell
      by_cases hquote : char = '\''
      · subst hquote
        by_cases hdouble : next.char = '\''
        · obtain ⟨_, other⟩ := next
          obtain rfl := hdouble
          by_cases hsame : other = tainted
          · subst hsame
            rw [complete_literalPair] at hok
            obtain ⟨body, rest, rfl, hbody, hrest⟩ := ih _ hok
            exact ⟨_, rest, rfl, .pair _ _ hbody, hrest⟩
          · simp [complete_cons, step, hsame, violation] at hok
        · cases tainted with
          | false => exact ⟨[], next :: cells, rfl, .nil, by simpa using hdouble⟩
          | true => simp [complete_cons, step, hdouble, closeLiteral, violation] at hok
      · by_cases hnull : char = '\x00' ∧ tainted = true
        · simp [complete_cons, step, hnull, violation] at hok
        · rw [complete_literalChar dialect _ _ _ _ _ hquote hnull] at hok
          obtain ⟨body, rest, hcells, hbody, hrest⟩ := ihNext next _ hok
          rw [hcells]
          exact ⟨_, rest, rfl, .char _ _ hquote hnull hbody, hrest⟩

theorem exists_identifierBody (offset start : Nat) (items : List Item) (cells : Text)
    {result : List Item}
    (hok : complete dialect ⟨offset, .identifier start, items⟩ cells = .ok result) :
    ∃ body rest, cells = body ++ ⟨'"', false⟩ :: rest ∧ IdentifierBody body ∧
      ∀ next ∈ rest.head?, next.char ≠ '"' := by
  induction cells using List.twoStepInduction generalizing offset with
  | nil => cases hok
  | singleton cell =>
      obtain ⟨char, tainted⟩ := cell
      cases tainted with
      | true => simp [complete_cons, step, violation] at hok
      | false =>
          by_cases hquote : char = '"'
          · subst hquote
            exact ⟨[], [], rfl, .nil, by simp⟩
          · rw [complete_identifierChar dialect _ _ _ _ _ rfl hquote] at hok
            cases hok
  | cons_cons cell next cells ih ihNext =>
      obtain ⟨char, tainted⟩ := cell
      cases tainted with
      | true => simp [complete_cons, step, violation] at hok
      | false =>
          by_cases hquote : char = '"'
          · subst hquote
            by_cases hdouble : next.char = '"'
            · obtain ⟨_, other⟩ := next
              obtain rfl := hdouble
              cases other with
              | false =>
                  rw [complete_identifierPair] at hok
                  obtain ⟨body, rest, rfl, hbody, hrest⟩ := ih _ hok
                  exact ⟨_, rest, rfl, .pair _ hbody, hrest⟩
              | true => simp [complete_cons, step, violation] at hok
            · exact ⟨[], next :: cells, rfl, .nil, by simpa using hdouble⟩
          · rw [complete_identifierChar dialect _ _ _ _ _ rfl hquote] at hok
            obtain ⟨body, rest, hcells, hbody, hrest⟩ := ihNext next _ hok
            rw [hcells]
            exact ⟨_, rest, rfl, .char _ _ hquote hbody, hrest⟩

-- The end of the query ends a line comment as well.
theorem exists_lineBody (offset start : Nat) (items : List Item) (cells : Text) {result : List Item}
    (hok : complete dialect ⟨offset, .lineComment start, items⟩ cells = .ok result) :
    ∃ body, (∀ cell ∈ body, cell.char ≠ '\r' ∧ cell.char ≠ '\n') ∧
      (cells = body ∨
        ∃ ending rest, (ending = '\r' ∨ ending = '\n') ∧
          cells = body ++ ⟨ending, false⟩ :: rest) := by
  induction cells generalizing offset with
  | nil => exact ⟨[], by simp, .inl rfl⟩
  | cons cell cells ih =>
      cases hend : isLineEnd cell.char with
      | true =>
          obtain ⟨char, tainted⟩ := cell
          cases tainted with
          | false => exact ⟨[], by simp, .inr ⟨char, cells, isLineEnd_iff.mp hend, rfl⟩⟩
          | true => simp [complete_cons, step, hend, violation] at hok
      | false =>
          rw [complete_lineChar dialect _ _ _ _ _ hend] at hok
          obtain ⟨body, hbody, hcells⟩ := ih _ hok
          refine ⟨cell :: body, ?_, ?_⟩
          · intro other hother
            rcases List.mem_cons.mp hother with rfl | hother
            · exact isLineEnd_eq_false_iff.mp hend
            · exact hbody other hother
          · rcases hcells with rfl | ⟨ending, rest, hending, rfl⟩
            · exact .inl rfl
            · exact .inr ⟨ending, rest, hending, rfl⟩

-- A delimiter is read only if both of its halves are clean.
theorem clean_of_delimits (offset start : Nat) (nesting : Nesting) (items : List Item)
    (cell next : Cell) (cells : Text) (hidle : nesting.change cell.char = .none)
    (hlevel : nesting.level ≠ 0) (hdelimits : delimits nesting.nested cell.char next.char = true)
    {result : List Item}
    (hok : complete dialect ⟨offset, .blockComment start nesting, items⟩ (cell :: next :: cells) =
      .ok result) :
    cell.tainted = false ∧ next.tainted = false := by
  rw [complete_blockChar dialect _ _ _ _ _ _ hidle hlevel, complete_cons] at hok
  have hchange := (change_after nesting.nested nesting.level cell next.char).not.mpr
    (by simp [hdelimits])
  cases hcell : cell.tainted <;> cases hnext : next.tainted <;>
    simp_all [step, Nesting.taintedChange, Nesting.touched, violation]

theorem exists_blockBody (offset start : Nat) (nesting : Nesting) (items : List Item) (cells : Text)
    (hidle : ∀ next ∈ cells.head?, nesting.change next.char = .none) (level : Nat)
    (hlevel : nesting.level = level + 1) {result : List Item}
    (hok : complete dialect ⟨offset, .blockComment start nesting, items⟩ cells = .ok result) :
    ∃ body rest, cells = body ++ rest ∧ BlockBody nesting.nested (level + 1) body := by
  induction cells using List.twoStepInduction generalizing offset nesting level with
  | nil => cases hok
  | singleton cell =>
      rw [complete_blockChar dialect _ _ _ _ _ _ (hidle cell rfl) (by omega)] at hok
      cases hok
  | cons_cons cell next cells ih ihNext =>
      have hcell := hidle cell rfl
      have hopen : nesting.level ≠ 0 := by omega
      cases hdelimits : delimits nesting.nested cell.char next.char with
      | false =>
          rw [complete_blockChar dialect _ _ _ _ _ _ hcell hopen] at hok
          have hnext : ∀ other ∈ (next :: cells).head?,
              delimits nesting.nested cell.char other.char = false := by simpa using hdelimits
          obtain ⟨body, rest, hcells, hbody⟩ := ihNext next _ _
            (fun other hhead => (change_after ..).mpr (hnext other hhead)) level hlevel hok
          refine ⟨cell :: body, rest, by rw [hcells]; rfl, .char _ _ _ ?_ hbody⟩
          intro other hhead
          apply hnext
          rw [hcells, List.head?_append, hhead]
          rfl
      | true =>
          obtain ⟨hclean, hnextClean⟩ :=
            clean_of_delimits dialect _ _ _ _ _ _ _ hcell hopen hdelimits hok
          obtain ⟨first, tainted⟩ := cell
          obtain ⟨second, other⟩ := next
          obtain rfl : tainted = false := hclean
          obtain rfl : other = false := hnextClean
          simp only [delimits, Bool.or_eq_true, Bool.and_eq_true, decide_eq_true_eq] at hdelimits
          rcases hdelimits with ⟨rfl, rfl⟩ | ⟨⟨hnested, rfl⟩, rfl⟩
          · rw [complete_blockClose dialect _ _ _ _ _ hcell level hlevel] at hok
            cases level with
            | zero => exact ⟨[_, _], cells, rfl, .close _ _ .done⟩
            | succ level =>
                rw [if_neg (by simp)] at hok
                obtain ⟨body, rest, rfl, hbody⟩ :=
                  ih _ _ (by simp [Nesting.change]) level rfl hok
                exact ⟨_, rest, rfl, .close _ _ hbody⟩
          · rw [complete_blockDeepen dialect _ _ _ _ _ hnested hcell hopen] at hok
            obtain ⟨body, rest, rfl, hbody⟩ :=
              ih _ _ (by simp [Nesting.change]) (level + 1) (by simp [hlevel]) hok
            rw [hnested]
            exact ⟨_, rest, rfl, .deepen _ _ rfl hbody⟩

-- Outside of every item the scanner is at the beginning of a piece.

theorem exists_value (offset : Nat) (before : Option Cell) (items : List Item) (cell : Cell)
    (cells : Text) (htainted : cell.tainted = true) {result : List Item}
    (hok : complete dialect ⟨offset, .code (separates before), items⟩ (cell :: cells) =
      .ok result) :
    ∃ run rest, cell :: cells = run ++ rest ∧ Piece dialect before run rest (some .value) := by
  obtain ⟨more, rest, rfl, hrun, hhead⟩ := Text.exists_run_cons cells htainted
  rw [← List.cons_append, complete_taintedRun dialect _ _ _ _ _ _ hrun hhead] at hok
  cases hfault : valueFault? (separates before) (Text.chars (cell :: more)) with
  | some kind => simp [hfault] at hok
  | none =>
      obtain ⟨hseparates, hvalue⟩ := (valueFault?_eq_none_iff ..).mp hfault
      rw [isValue, Bool.or_eq_true, Number.isLiteral_iff] at hvalue
      exact ⟨cell :: more, rest, rfl, .value _ _ (by simp) hrun hhead hseparates hvalue⟩

theorem exists_comment (offset : Nat) (separated : Bool) (before : Option Cell) (items : List Item)
    (char : Char) (next : Cell) (cells : Text) (hopens : opensComment char next.char = true)
    {result : List Item}
    (hok : complete dialect ⟨offset, .code separated, items⟩ (⟨char, false⟩ :: next :: cells) =
      .ok result) :
    ∃ piece rest kind, ⟨char, false⟩ :: next :: cells = piece ++ rest ∧ piece ≠ [] ∧
      Piece dialect before piece rest kind := by
  obtain ⟨second, tainted⟩ := next
  have hpair : char = second ∧ (char = '-' ∨ char = '/') ∨ char = '/' ∧ second = '*' := by
    simp only [opensComment, Bool.or_eq_true, Bool.and_eq_true, decide_eq_true_eq] at hopens
    grind
  cases tainted with
  | true =>
      rcases hpair with ⟨rfl, rfl | rfl⟩ | ⟨rfl, rfl⟩ <;>
        simp [complete_cons, step, outside, opened?, violation] at hok
  | false =>
      rcases hpair with ⟨rfl, hmark⟩ | ⟨rfl, rfl⟩
      · rw [complete_openLineComment dialect _ _ _ _ hmark] at hok
        obtain ⟨body, hbody, rfl | ⟨ending, rest, hending, rfl⟩⟩ :=
          exists_lineBody dialect _ _ _ _ hok
        · exact ⟨_, [], _, (List.append_nil _).symm, by simp, .lastLine char cells hmark hbody⟩
        · exact ⟨_, rest, _, by simp, by simp,
            .lineComment char ending body rest hmark hbody hending⟩
      · rw [complete_openBlockComment] at hok
        obtain ⟨body, rest, rfl, hbody⟩ := exists_blockBody dialect _ _ _ _ _
          (by simp [Nesting.opened, Nesting.change]) 0 rfl hok
        exact ⟨_, rest, _, rfl, by simp, .blockComment body rest hbody⟩

theorem exists_piece (offset : Nat) (before : Option Cell) (items : List Item) (cell : Cell)
    (cells : Text) {result : List Item}
    (hok : complete dialect ⟨offset, .code (separates before), items⟩ (cell :: cells) =
      .ok result) :
    ∃ piece rest kind, cell :: cells = piece ++ rest ∧ piece ≠ [] ∧
      Piece dialect before piece rest kind := by
  obtain ⟨char, tainted⟩ := cell
  cases tainted with
  | true =>
      obtain ⟨run, rest, hcells, hpiece⟩ := exists_value dialect _ _ _ _ _ rfl hok
      refine ⟨run, rest, _, hcells, ?_, hpiece⟩
      cases hpiece with
      | value _ _ hne => exact hne
  | false =>
      by_cases hquote : char = '\''
      · subst hquote
        rw [complete_openLiteral] at hok
        obtain ⟨body, rest, rfl, hbody, hrest⟩ := exists_literalBody dialect _ _ _ _ hok
        exact ⟨_, rest, _, by simp, by simp, .stringLiteral body rest hbody hrest⟩
      · by_cases hmark : char = '"'
        · subst hmark
          rw [complete_openIdentifier] at hok
          obtain ⟨body, rest, rfl, hbody, hrest⟩ := exists_identifierBody dialect _ _ _ _ hok
          exact ⟨_, rest, _, by simp, by simp, .quotedIdentifier body rest hbody hrest⟩
        · by_cases hplain : ∀ next ∈ cells.head?, opensComment char next.char = false
          · exact ⟨_, cells, _, rfl, by simp, .plain char cells hquote hmark hplain⟩
          · cases cells with
            | nil => simp at hplain
            | cons next cells =>
                exact exists_comment dialect _ _ before _ _ _ _ (by simpa using hplain) hok

theorem exists_cut (offset : Nat) (before : Option Cell) (items : List Item) (text : Text)
    {result : List Item}
    (hok : complete dialect ⟨offset, .code (separates before), items⟩ text = .ok result) :
    ∃ found, Cut dialect before offset text found ∧ result = found.reverse ++ items := by
  induction hlength : text.length using Nat.strongRecOn generalizing offset before items text with
  | ind length ih =>
      cases text with
      | nil =>
          cases hok
          exact ⟨[], .nil before offset, rfl⟩
      | cons cell cells =>
          obtain ⟨piece, rest, kind, hcells, hne, hpiece⟩ := exists_piece dialect _ _ _ _ _ hok
          have hshorter : rest.length < length := by
            have := List.length_pos_iff.mpr hne
            rw [← hlength, hcells, List.length_append]
            omega
          rw [hcells, complete_piece dialect hpiece] at hok
          obtain ⟨found, hfound, rfl⟩ := ih _ hshorter _ _ _ _ hok rfl
          rw [hcells]
          refine ⟨_, .cons _ _ _ _ _ _ hpiece hfound, ?_⟩
          cases kind <;> simp [itemOf]

theorem scan_eq_ok_iff (query : Text) (items : List Item) :
    scan dialect query = .ok items ↔ Cut dialect none 0 query items := by
  rw [scan_eq_ok_iff_complete]
  constructor
  · intro hok
    obtain ⟨found, hfound, hitems⟩ := exists_cut dialect 0 none [] query hok
    rw [List.append_nil, List.reverse_inj] at hitems
    rw [hitems]
    exact hfound
  · intro hcut
    have hok := complete_cut dialect hcut []
    rwa [List.append_nil] at hok

end Scan

-- The queries that are accepted are those that the grammar can cut.
theorem validate_accepts_iff (dialect : Dialect) (query : Text) (incidents : Incidents) :
    (validate dialect .reject query incidents).1 = .ok () ↔
      ∃ items, Grammar.Cut dialect none 0 query items := by
  rw [validate_reject, Scan.check_eq_ok_iff]
  exact exists_congr fun items => Scan.scan_eq_ok_iff dialect query items

end QueryTaint
