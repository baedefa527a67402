import QueryTaint.Proofs.Text.Positions
import Mathlib.Algebra.BigOperators.Group.List.Basic
import Mathlib.Algebra.Ring.Nat

namespace QueryTaint

def Span.positions (run : Span) : List Nat := List.range' run.start (run.stop - run.start)

def Span.length (run : Span) : Nat := run.stop - run.start

theorem Span.length_positions (run : Span) : run.positions.length = run.length :=
  List.length_range'

namespace Text

-- Tainted positions that go on neither to the left nor to the right.
structure MaximalRun (text : Text) (run : Span) : Prop where
  start_lt_stop : run.start < run.stop
  tainted : ∀ index, run.start ≤ index → index < run.stop → text.taintedAt index = true
  clean_before : ∀ index, index + 1 = run.start → text.taintedAt index = false
  clean_after : text.taintedAt run.stop = false

-- The first tainted position from the given one on, or the end of the text.
def nextTainted (text : Text) (position : Nat) : Nat :=
  position + ((text.drop position).takeWhile (!·.tainted)).length

-- What a reader reads that stands at the position, and where it stands then.
def readRun (text : Text) (position : Nat) : Option Span × Nat :=
  let start := text.nextTainted position
  if start < text.length then (some ⟨start, text.runEnd start⟩, text.runEnd start)
  else (none, start)

-- Where a reader stands after so many runs, or attempts at one, from the beginning of the text.
def readerAfter (text : Text) : Nat → Nat
  | 0 => 0
  | reads + 1 => (text.readRun (text.readerAfter reads)).2

section Reader

-- The clean cells that a text begins with, which may be none, and the rest of it.
theorem exists_clean (text : Text) :
    ∃ clean rest, text = clean ++ rest ∧ (∀ cell ∈ clean, cell.tainted = false) ∧
      ∀ next ∈ rest.head?, next.tainted = true := by
  have hcut := exists_first_cut (!·.tainted) text
  simpa only [Bool.not_eq_true', Bool.not_eq_false'] using hcut

theorem nextTainted_append (left : Text) {clean rest : Text}
    (hclean : ∀ cell ∈ clean, cell.tainted = false)
    (hrest : ∀ next ∈ rest.head?, next.tainted = true) :
    (left ++ (clean ++ rest)).nextTainted left.length = (left ++ clean).length := by
  have htake : (clean ++ rest).takeWhile (!·.tainted) = clean :=
    takeWhile_append_of_head? (by simpa using hclean) (by simpa using hrest)
  rw [nextTainted, List.drop_left, htake, List.length_append]

-- From the position on, these are the runs of the text.
def Ahead (text : Text) (position : Nat) (runs : List Span) : Prop :=
  ∃ left right, text = left ++ right ∧ left.length = position ∧
    right.taintedRunsFrom position = runs

-- The reader skips the clean cells that it stands before, and then it stops right behind a run.
theorem Ahead.readRun {text : Text} {position : Nat} {runs : List Span}
    (h : text.Ahead position runs) :
    (text.readRun position).1 = runs.head? ∧ text.Ahead (text.readRun position).2 runs.tail := by
  obtain ⟨left, right, rfl, rfl, rfl⟩ := h
  obtain ⟨clean, rest, rfl, hclean, hrest⟩ := exists_clean right
  have hstart := nextTainted_append left hclean hrest
  have hruns := taintedRunsFrom_clean_append left.length hclean rest
  rw [← List.length_append] at hruns
  rw [hruns, Text.readRun, hstart, ← List.append_assoc]
  cases rest with
  | nil =>
      rw [List.append_nil, if_neg (Nat.lt_irrefl _)]
      exact ⟨rfl, left ++ clean, [], (List.append_nil _).symm, rfl, rfl⟩
  | cons cell rest =>
      obtain ⟨more, rest, rfl, hrun, hhead⟩ := exists_run_cons rest (hrest cell rfl)
      have hinside : (left ++ clean).length < (left ++ clean ++ (cell :: more ++ rest)).length := by
        simp only [List.length_append, List.length_cons]
        omega
      have hstop := runEnd_append (left ++ clean) hrun hhead
      rw [← List.cons_append, if_pos hinside, hstop,
        taintedRunsFrom_run _ (List.cons_ne_nil cell more) hrun hhead]
      refine ⟨rfl, left ++ clean ++ (cell :: more), rest, ?_, ?_, rfl⟩
      · rw [List.append_assoc (left ++ clean)]
      · rw [List.length_append]

theorem ahead_readerAfter (text : Text) (reads : Nat) :
    text.Ahead (text.readerAfter reads) (text.taintedRuns.drop reads) := by
  induction reads with
  | zero => exact ⟨[], text, rfl, rfl, rfl⟩
  | succ reads ih =>
      rw [← List.tail_drop]
      exact ih.readRun.2

theorem readRun_readerAfter (text : Text) (reads : Nat) :
    (text.readRun (text.readerAfter reads)).1 = text.taintedRuns[reads]? := by
  rw [(text.ahead_readerAfter reads).readRun.1, List.head?_drop]

end Reader

section Maximal

theorem taintedAt_of_forall {text : Text} (htext : ∀ cell ∈ text, cell.tainted = true) {index : Nat}
    (h : index < text.length) : text.taintedAt index = true := by
  rw [taintedAt, List.getElem?_eq_getElem h]
  exact htext _ (List.getElem_mem h)

theorem LastRun.maximalRun {front left run right : Text} (h : LastRun front left run)
    (hright : ∀ next ∈ right.head?, next.tainted = false) :
    (front ++ right).MaximalRun ⟨left.length, front.length⟩ := by
  obtain ⟨rfl, hne, hrun, hleft⟩ := h
  have hlength : (left ++ run).length = left.length + run.length := List.length_append
  have hpos : 0 < run.length := List.length_pos_iff.mpr hne
  refine ⟨?_, fun index hstart hstop => ?_, fun index hindex => ?_, taintedAt_length_append hright⟩
  · dsimp only
    omega
  · dsimp only at hstart hstop
    obtain ⟨inner, rfl⟩ := Nat.exists_eq_add_of_le hstart
    rw [taintedAt_append_left right hstop, taintedAt_append_right]
    exact taintedAt_of_forall hrun (by omega)
  · rcases List.eq_nil_or_concat left with rfl | ⟨before, last, rfl⟩
    · cases hindex
    · have hlast := hleft last (by simp)
      rw [List.concat_eq_append] at hindex ⊢
      rw [List.length_append, List.length_singleton] at hindex
      obtain rfl := Nat.succ.inj hindex
      rw [List.append_assoc, List.append_assoc, List.singleton_append, taintedAt_append, hlast]

-- Cuts out of a text what stands at a maximal run.
theorem MaximalRun.exists_lastRun {text : Text} {run : Span} (h : text.MaximalRun run) :
    ∃ front left cells right, text = front ++ right ∧ LastRun front left cells ∧
      (∀ next ∈ right.head?, next.tainted = false) ∧ run = ⟨left.length, front.length⟩ := by
  obtain ⟨start, stop⟩ := run
  obtain ⟨hpos, htainted, hbefore, hafter⟩ := h
  dsimp only at hpos htainted hbefore hafter
  have hlast := length_of_taintedAt (htainted (stop - 1) (by omega) (by omega))
  have hstop : stop ≤ text.length := by omega
  obtain ⟨front, right, rfl, rfl⟩ := exists_cut hstop
  have hstart : start ≤ front.length := hpos.le
  obtain ⟨left, cells, rfl, rfl⟩ := exists_cut hstart
  have hlength : (left ++ cells).length = left.length + cells.length := List.length_append
  refine ⟨left ++ cells, left, cells, right, rfl, ⟨rfl, ?_, ?_, ?_⟩, ?_, rfl⟩
  · exact List.length_pos_iff.mp (by omega)
  · intro cell hcell
    obtain ⟨index, hindex, rfl⟩ := List.mem_iff_getElem.mp hcell
    have hbit := htainted (left.length + index) (Nat.le_add_right ..) (by omega)
    rw [taintedAt_append_left right (by omega), taintedAt_append_right, taintedAt,
      List.getElem?_eq_getElem hindex] at hbit
    exact hbit
  · intro last hlast
    obtain ⟨before, rfl⟩ := List.getLast?_eq_some_iff.mp hlast
    have hbit := hbefore before.length (by simp)
    rwa [List.append_assoc, List.append_assoc, List.singleton_append, taintedAt_append] at hbit
  · intro next hnext
    obtain ⟨rest, rfl⟩ := List.head?_eq_some_iff.mp hnext
    rwa [taintedAt_append] at hafter

theorem MaximalRun.runEnd_eq {text : Text} {run : Span} (h : text.MaximalRun run) :
    text.runEnd run.start = run.stop := by
  obtain ⟨front, left, cells, right, rfl, ⟨rfl, -, hcells, -⟩, hright, rfl⟩ := h.exists_lastRun
  rw [List.append_assoc, runEnd_append left hcells hright, List.length_append]

theorem maximalRun_of_mem {left right : Text} (hcut : ¬RunsOn left right) {run : Span}
    (h : run ∈ right.taintedRunsFrom left.length) : (left ++ right).MaximalRun run := by
  induction right using runInduction generalizing left with
  | nil => cases h
  | clean cell rest hcell ih =>
      rw [taintedRunsFrom_clean _ _ hcell] at h
      have hlength : left.length + 1 = (left ++ [cell]).length := by simp
      rw [hlength] at h
      rw [List.append_cons]
      have hclean : ∀ last ∈ (left ++ [cell]).getLast?, last.tainted = false := by
        simpa using hcell
      exact ih (not_runsOn_of_clean_last hclean rest) h
  | run cell more rest hrun hrest ih =>
      rw [taintedRunsFrom_run _ (List.cons_ne_nil cell more) hrun hrest, ← List.length_append] at h
      rw [← List.append_assoc]
      rcases List.mem_cons.mp h with rfl | h
      · have hlast : LastRun (left ++ cell :: more) left (cell :: more) := by
          refine ⟨rfl, List.cons_ne_nil cell more, hrun, fun last hlast => ?_⟩
          rw [Bool.eq_false_iff]
          exact fun htainted => hcut ⟨last, hlast, cell, rfl, htainted, hrun cell (by simp)⟩
        exact hlast.maximalRun hrest
      · exact ih (not_runsOn_of_clean_head _ hrest) h

theorem mem_taintedRuns_iff {text : Text} {run : Span} :
    run ∈ text.taintedRuns ↔ text.MaximalRun run := by
  constructor
  · have hcut : ¬RunsOn [] text := not_runsOn_of_clean_last (by simp) text
    exact maximalRun_of_mem hcut
  · intro h
    obtain ⟨front, left, cells, right, rfl, ⟨rfl, hne, hcells, hleft⟩, hright, rfl⟩ :=
      h.exists_lastRun
    have hcut := not_runsOn_of_clean_last hleft (cells ++ right)
    rw [taintedRuns, List.append_assoc, taintedRunsFrom_append 0 hcut, Nat.zero_add,
      taintedRunsFrom_run left.length hne hcells hright, List.length_append]
    exact List.mem_append_right _ List.mem_cons_self

-- Behind each run there is a clean cell before the next one.
theorem pairwise_taintedRuns (text : Text) :
    text.taintedRuns.Pairwise fun first second =>
      first.stop < second.start ∧ text.taintedAt first.stop = false :=
  (pairwise_taintedRunsFrom 0 text).imp_of_mem fun hfirst _ hapart =>
    ⟨hapart, (mem_taintedRuns_iff.mp hfirst).clean_after⟩

end Maximal

section Positions

theorem taintedIndicesFrom_clean (offset : Nat) {cell : Cell} (text : Text)
    (hclean : cell.tainted = false) :
    taintedIndicesFrom offset (cell :: text) = taintedIndicesFrom (offset + 1) text := by
  simp [taintedIndicesFrom, hclean]

theorem taintedIndicesFrom_run (offset : Nat) {run : Text}
    (hrun : ∀ cell ∈ run, cell.tainted = true) (rest : Text) :
    taintedIndicesFrom offset (run ++ rest) =
      List.range' offset run.length ++ taintedIndicesFrom (offset + run.length) rest := by
  induction run generalizing offset with
  | nil => rfl
  | cons cell run ih =>
      have hrest := ih (offset + 1) fun other hother => hrun other (List.mem_cons_of_mem _ hother)
      simp only [List.cons_append, taintedIndicesFrom, hrun cell (by simp), if_true, hrest,
        List.length_cons, List.range'_succ, Nat.add_assoc, Nat.add_comm 1]

theorem flatMap_positions_taintedRunsFrom (offset : Nat) (text : Text) :
    (text.taintedRunsFrom offset).flatMap Span.positions = text.taintedIndicesFrom offset := by
  induction text using runInduction generalizing offset with
  | nil => rfl
  | clean cell rest hcell ih =>
      rw [taintedRunsFrom_clean _ _ hcell, taintedIndicesFrom_clean _ _ hcell, ih]
  | run cell more rest hrun hrest ih =>
      rw [taintedRunsFrom_run _ (List.cons_ne_nil cell more) hrun hrest, List.flatMap_cons, ih,
        taintedIndicesFrom_run _ hrun, Span.positions, Nat.add_sub_cancel_left]

theorem length_taintedIndicesFrom (offset : Nat) (text : Text) :
    (text.taintedIndicesFrom offset).length = text.taintCount := by
  induction text generalizing offset with
  | nil => rfl
  | cons cell text ih =>
      unfold taintedIndicesFrom
      cases hcell : cell.tainted <;> simp [taintCount, hcell, ih]

theorem sum_length_taintedRuns (text : Text) :
    (text.taintedRuns.map Span.length).sum = text.taintCount := by
  rw [← length_taintedIndicesFrom 0, ← flatMap_positions_taintedRunsFrom, List.length_flatMap]
  simp only [Span.length_positions, taintedRuns]

end Positions

-- However often a reader asks, it gets the runs of the list in their order and no others. They are
-- the maximal ones; between two of them stands a clean cell; and their positions, run by run, are
-- the tainted positions of the text.
theorem taintedRuns_enumerated (text : Text) :
    (∀ reads, (text.readRun (text.readerAfter reads)).1 = text.taintedRuns[reads]?) ∧
      (∀ run, run ∈ text.taintedRuns ↔ text.MaximalRun run) ∧
      (∀ run ∈ text.taintedRuns, text.runEnd run.start = run.stop) ∧
      text.taintedRuns.Pairwise (fun first second =>
        first.stop < second.start ∧ text.taintedAt first.stop = false) ∧
      text.taintedRuns.flatMap Span.positions = text.taintedIndices ∧
      (text.taintedRuns.map Span.length).sum = text.taintCount :=
  ⟨text.readRun_readerAfter, fun _ => mem_taintedRuns_iff,
    fun _ hrun => (mem_taintedRuns_iff.mp hrun).runEnd_eq, text.pairwise_taintedRuns,
    flatMap_positions_taintedRunsFrom 0 text, text.sum_length_taintedRuns⟩

-- A run at the beginning of the text and one at its end.
theorem taintedRuns_enumerated_ends :
    let text : Text := uniform true ['1', '2'] ++ uniform false [','] ++ uniform true ['3']
    text.taintedRuns = [⟨0, 2⟩, ⟨3, 4⟩] ∧ text.runEnd 0 = 2 ∧ text.runEnd 3 = 4 ∧
      (text.readRun (text.readerAfter 1)).1 = some ⟨3, 4⟩ ∧
      (text.readRun (text.readerAfter 2)).1 = none := by
  intro text
  have hruns : text.taintedRuns = [⟨0, 2⟩, ⟨3, 4⟩] := rfl
  obtain ⟨hreads, -, hends, -⟩ := taintedRuns_enumerated text
  rw [hruns] at hreads hends
  exact ⟨hruns, hends ⟨0, 2⟩ (by simp), hends ⟨3, 4⟩ (by simp), hreads 1, hreads 2⟩

end Text

end QueryTaint
