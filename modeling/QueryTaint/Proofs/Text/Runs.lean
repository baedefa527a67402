import QueryTaint.Proofs.Lexis.Value
import QueryTaint.Proofs.Text.Cuts

namespace QueryTaint.Text

theorem takeWhile_run {run rest : Text} (hrun : ∀ cell ∈ run, cell.tainted = true)
    (hrest : ∀ next ∈ rest.head?, next.tainted = false) :
    (run ++ rest).takeWhile Cell.tainted = run :=
  takeWhile_append_of_head? hrun hrest

-- The tainted run that a text begins with, which may be empty, and the rest of it.
theorem exists_run (text : Text) :
    ∃ run rest, text = run ++ rest ∧ (∀ cell ∈ run, cell.tainted = true) ∧
      ∀ next ∈ rest.head?, next.tainted = false :=
  exists_first_cut Cell.tainted text

theorem exists_run_cons {cell : Cell} (text : Text) (htainted : cell.tainted = true) :
    ∃ more rest, text = more ++ rest ∧ (∀ other ∈ cell :: more, other.tainted = true) ∧
      ∀ next ∈ rest.head?, next.tainted = false := by
  obtain ⟨more, rest, htext, hmore, hrest⟩ := exists_run text
  refine ⟨more, rest, htext, ?_, hrest⟩
  intro other hother
  rcases List.mem_cons.mp hother with rfl | hother
  · exact htainted
  · exact hmore other hother

-- A text is nothing, or a clean cell before a text, or a whole tainted run before one.
@[elab_as_elim]
theorem runInduction {motive : Text → Prop} (nil : motive [])
    (clean : ∀ cell rest, cell.tainted = false → motive rest → motive (cell :: rest))
    (run : ∀ cell more rest, (∀ other ∈ cell :: more, other.tainted = true) →
      (∀ next ∈ rest.head?, next.tainted = false) → motive rest → motive (cell :: more ++ rest))
    (text : Text) : motive text := by
  induction hlength : text.length using Nat.strongRecOn generalizing text with
  | ind length ih =>
      subst hlength
      cases text with
      | nil => exact nil
      | cons cell text =>
          cases hcell : cell.tainted with
          | false => exact clean cell text hcell (ih text.length (by simp) text rfl)
          | true =>
              obtain ⟨more, rest, rfl, hrun, hrest⟩ := exists_run_cons text hcell
              have hshorter : rest.length < List.length (cell :: (more ++ rest)) := by
                rw [List.length_cons, List.length_append]
                omega
              exact run cell more rest hrun hrest (ih rest.length hshorter rest rfl)

-- The text ends in a tainted run, and `left` is all that stands before it.
structure LastRun (text left run : Text) : Prop where
  eq_append : text = left ++ run
  ne_nil : run ≠ []
  tainted : ∀ cell ∈ run, cell.tainted = true
  clean : ∀ cell ∈ left.getLast?, cell.tainted = false

-- The tainted run at the end of the text goes on in the one after it.
def RunsOn (text next : Text) : Prop :=
  ∃ last ∈ text.getLast?, ∃ first ∈ next.head?, last.tainted = true ∧ first.tainted = true

theorem RunsOn.append_left {text next : Text} (h : RunsOn text next) (left : Text) :
    RunsOn (left ++ text) next := by
  obtain ⟨last, hlast, hfirst⟩ := h
  refine ⟨last, ?_, hfirst⟩
  rw [List.getLast?_append, Option.mem_def.mp hlast]
  rfl

theorem not_runsOn_of_clean_last {text : Text}
    (h : ∀ last ∈ text.getLast?, last.tainted = false) (next : Text) : ¬RunsOn text next := by
  rintro ⟨last, hlast, -, -, htainted, -⟩
  rw [h last hlast] at htainted
  cases htainted

theorem not_runsOn_of_clean_head (text : Text) {next : Text}
    (h : ∀ first ∈ next.head?, first.tainted = false) : ¬RunsOn text next := by
  rintro ⟨-, -, first, hfirst, -, htainted⟩
  rw [h first hfirst] at htainted
  cases htainted

theorem mem_joinRun {offset : Nat} {runs : List Span} {run : Span} (h : run ∈ joinRun offset runs) :
    run ∈ runs ∨
      run.start = offset ∧ (run.stop = offset + 1 ∨ ∃ other ∈ runs, run.stop = other.stop) := by
  cases runs with
  | nil =>
      obtain rfl := List.mem_singleton.mp h
      exact .inr ⟨rfl, .inl rfl⟩
  | cons first runs =>
      simp only [joinRun] at h
      split at h
      · rcases List.mem_cons.mp h with rfl | h
        · exact .inr ⟨rfl, .inr ⟨first, by simp, rfl⟩⟩
        · exact .inl (List.mem_cons_of_mem _ h)
      · rcases List.mem_cons.mp h with rfl | h
        · exact .inr ⟨rfl, .inl rfl⟩
        · exact .inl h

-- No run is empty, and each lies in the text.
theorem bounds_of_mem_taintedRunsFrom {offset : Nat} (text : Text) {run : Span}
    (h : run ∈ text.taintedRunsFrom offset) :
    offset ≤ run.start ∧ run.start < run.stop ∧ run.stop ≤ offset + text.length := by
  induction text generalizing offset run with
  | nil => cases h
  | cons cell text ih =>
      rw [List.length_cons]
      simp only [taintedRunsFrom] at h
      split at h
      · rcases mem_joinRun h with h | ⟨hstart, hstop | ⟨other, hother, hstop⟩⟩
        · have hrest := ih h
          omega
        · omega
        · have hrest := ih hother
          omega
      · have hrest := ih h
        omega

theorem taintedRunsFrom_clean (offset : Nat) {cell : Cell} (text : Text)
    (hclean : cell.tainted = false) :
    taintedRunsFrom offset (cell :: text) = taintedRunsFrom (offset + 1) text := by
  simp [taintedRunsFrom, hclean]

theorem taintedRunsFrom_run (offset : Nat) {run rest : Text} (hne : run ≠ [])
    (hrun : ∀ cell ∈ run, cell.tainted = true) (hrest : ∀ next ∈ rest.head?, next.tainted = false) :
    taintedRunsFrom offset (run ++ rest) =
      ⟨offset, offset + run.length⟩ :: taintedRunsFrom (offset + run.length) rest := by
  induction run generalizing offset with
  | nil => exact absurd rfl hne
  | cons cell run ih =>
      have hcell := hrun cell (by simp)
      simp only [List.cons_append, taintedRunsFrom, hcell, if_true]
      cases run with
      | nil =>
          cases rest with
          | nil => rfl
          | cons next rest =>
              have hnext := taintedRunsFrom_clean (offset + 1) rest (hrest next rfl)
              simp only [List.nil_append, hnext, List.length_singleton]
              cases hruns : taintedRunsFrom (offset + 1 + 1) rest with
              | nil => rfl
              | cons first runs =>
                  have hstart : offset + 1 + 1 ≤ first.start :=
                    (bounds_of_mem_taintedRunsFrom rest (by simp [hruns])).1
                  simp only [joinRun]
                  rw [if_neg (by omega)]
      | cons other run =>
          rw [ih _ (by simp) fun cell hmem => hrun cell (List.mem_cons_of_mem _ hmem)]
          simp [joinRun, Nat.add_assoc, Nat.add_comm 1]

theorem taintedRunsFrom_clean_append (offset : Nat) {left : Text}
    (hclean : ∀ cell ∈ left, cell.tainted = false) (right : Text) :
    taintedRunsFrom offset (left ++ right) = taintedRunsFrom (offset + left.length) right := by
  induction left generalizing offset with
  | nil => rfl
  | cons cell left ih =>
      rw [List.cons_append, taintedRunsFrom_clean offset _ (hclean cell (by simp)),
        ih _ fun other hother => hclean other (List.mem_cons_of_mem _ hother), List.length_cons]
      congr 1
      omega

theorem taintedRunsFrom_of_clean (offset : Nat) {text : Text}
    (hclean : ∀ cell ∈ text, cell.tainted = false) : taintedRunsFrom offset text = [] := by
  have happend := taintedRunsFrom_clean_append offset hclean []
  rwa [List.append_nil] at happend

theorem lt_start_of_clean_head {offset : Nat} {text : Text}
    (hhead : ∀ next ∈ text.head?, next.tainted = false) {run : Span}
    (h : run ∈ text.taintedRunsFrom offset) : offset < run.start := by
  cases text with
  | nil => cases h
  | cons cell text =>
      rw [taintedRunsFrom_clean offset text (hhead cell rfl)] at h
      have hbounds := bounds_of_mem_taintedRunsFrom text h
      omega

-- The runs come from left to right, and no two of them touch.
theorem pairwise_taintedRunsFrom (offset : Nat) (text : Text) :
    (text.taintedRunsFrom offset).Pairwise fun first second => first.stop < second.start := by
  induction text using runInduction generalizing offset with
  | nil => exact .nil
  | clean cell rest hcell ih =>
      rw [taintedRunsFrom_clean offset rest hcell]
      exact ih (offset + 1)
  | run cell more rest hrun hrest ih =>
      rw [taintedRunsFrom_run offset (List.cons_ne_nil cell more) hrun hrest]
      exact .cons (fun other hother => lt_start_of_clean_head hrest hother) (ih _)

-- A cut that goes through no run divides the runs.
theorem taintedRunsFrom_append (offset : Nat) {left right : Text} (h : ¬RunsOn left right) :
    taintedRunsFrom offset (left ++ right) =
      taintedRunsFrom offset left ++ taintedRunsFrom (offset + left.length) right := by
  induction left using runInduction generalizing offset with
  | nil => rfl
  | clean cell left hcell ih =>
      have hleft : ¬RunsOn left right := fun hboth => h (hboth.append_left [cell])
      have hlength : offset + (left.length + 1) = offset + 1 + left.length := by omega
      rw [List.cons_append, taintedRunsFrom_clean offset _ hcell,
        taintedRunsFrom_clean offset _ hcell, ih _ hleft, List.length_cons, hlength]
  | run cell more left hrun hleft ih =>
      have hmore : ¬RunsOn left right := fun hboth => h (hboth.append_left (cell :: more))
      have hhead : ∀ next ∈ (left ++ right).head?, next.tainted = false := by
        cases left with
        | nil =>
            intro next hnext
            have hlast := List.getLast?_eq_some_getLast (List.cons_ne_nil cell more)
            rw [List.append_nil] at h
            rw [Bool.eq_false_iff]
            intro htainted
            exact h ⟨_, hlast, next, hnext, hrun _ (List.getLast_mem _), htainted⟩
        | cons next left => exact hleft
      rw [List.append_assoc, taintedRunsFrom_run offset (List.cons_ne_nil cell more) hrun hhead,
        taintedRunsFrom_run offset (List.cons_ne_nil cell more) hrun hleft, ih _ hmore,
        List.length_append, List.cons_append, Nat.add_assoc]

theorem joinRun_shift (shift offset : Nat) (runs : List Span) :
    joinRun (shift + offset) (runs.map fun run => ⟨shift + run.start, shift + run.stop⟩) =
      (joinRun offset runs).map fun run => ⟨shift + run.start, shift + run.stop⟩ := by
  cases runs with
  | nil => rfl
  | cons first runs =>
      simp only [joinRun, List.map_cons]
      by_cases hnext : first.start = offset + 1
      · rw [if_pos hnext, if_pos (by omega)]
        rfl
      · rw [if_neg hnext, if_neg (by omega)]
        rfl

-- The runs move with the text.
theorem taintedRunsFrom_shift (shift offset : Nat) (text : Text) :
    taintedRunsFrom (shift + offset) text =
      (taintedRunsFrom offset text).map fun run => ⟨shift + run.start, shift + run.stop⟩ := by
  induction text generalizing offset with
  | nil => rfl
  | cons cell text ih =>
      have hrest := ih (offset + 1)
      rw [← Nat.add_assoc] at hrest
      simp only [taintedRunsFrom]
      split
      · rw [hrest, joinRun_shift]
      · exact hrest

theorem checkRunsAfter_clean (before : Option Cell) (offset : Nat) {cell : Cell} (text : Text)
    (hclean : cell.tainted = false) :
    checkRunsAfter before offset (cell :: text) = checkRunsAfter (some cell) (offset + 1) text := by
  rw [checkRunsAfter]
  simp [hclean]

theorem checkRunsAfter_of_clean (before : Option Cell) (offset : Nat) {text : Text}
    (hclean : ∀ cell ∈ text, cell.tainted = false) :
    checkRunsAfter before offset text = .ok () := by
  induction text generalizing before offset with
  | nil => rw [checkRunsAfter]
  | cons cell text ih =>
      rw [checkRunsAfter_clean before offset text (hclean cell (by simp))]
      exact ih _ _ fun other hother => hclean other (List.mem_cons_of_mem _ hother)

theorem checkRunsAfter_run (before : Option Cell) (offset : Nat) (cell : Cell) {more rest : Text}
    (hrun : ∀ other ∈ cell :: more, other.tainted = true)
    (hrest : ∀ next ∈ rest.head?, next.tainted = false) :
    checkRunsAfter before offset (cell :: more ++ rest) =
      match valueFault? (separates before) (Text.chars (cell :: more)) with
      | some kind => .error ⟨kind, offset⟩
      | none => checkRunsAfter (some cell) (offset + (more.length + 1)) rest := by
  have htake := takeWhile_run (fun other hother => hrun other (List.mem_cons_of_mem _ hother)) hrest
  have hoffset : offset + 1 + List.length more = offset + (more.length + 1) := by omega
  rw [List.cons_append, checkRunsAfter, if_pos (hrun cell (by simp)), htake]
  dsimp only
  cases valueFault? (separates before) (Text.chars (cell :: more)) with
  | some kind => rfl
  | none => simp only [List.drop_left, hoffset]

-- Of the cell before a text only this counts, whether it separates.
theorem checkRunsAfter_congr {before other : Option Cell} (h : separates before = separates other)
    (offset : Nat) (text : Text) :
    checkRunsAfter before offset text = checkRunsAfter other offset text := by
  cases text with
  | nil => rw [checkRunsAfter, checkRunsAfter]
  | cons cell rest => rw [checkRunsAfter, checkRunsAfter, h]

-- The verdict moves with the text.
theorem checkRunsAfter_shift (before : Option Cell) (shift offset : Nat) (text : Text) :
    checkRunsAfter before (shift + offset) text =
      (checkRunsAfter before offset text).mapError fun found =>
        ⟨found.kind, shift + found.offset⟩ := by
  induction text using runInduction generalizing before offset with
  | nil =>
      rw [checkRunsAfter, checkRunsAfter]
      rfl
  | clean cell rest hcell ih =>
      rw [checkRunsAfter_clean _ _ _ hcell, checkRunsAfter_clean _ _ _ hcell, Nat.add_assoc, ih]
  | run cell more rest hrun hrest ih =>
      rw [checkRunsAfter_run _ _ _ hrun hrest, checkRunsAfter_run _ _ _ hrun hrest, Nat.add_assoc,
        ih]
      cases valueFault? (separates before) (Text.chars (cell :: more)) <;> rfl

theorem checkRunsAfter_value (before : Option Cell) (offset : Nat) {run : List Char}
    (hvalue : isValue run = true) {rest : Text} (hclean : ∀ cell ∈ rest, cell.tainted = false) :
    checkRunsAfter before offset (uniform true run ++ rest) =
      if separates before then .ok () else .error ⟨.unseparatedValue, offset⟩ := by
  cases run with
  | nil => cases hvalue
  | cons char more =>
      have hrun : ∀ cell ∈ uniform true (char :: more), cell.tainted = true := fun cell hcell =>
        tainted_of_mem_uniform hcell
      have hchars := chars_uniform true (char :: more)
      have hrest : ∀ next ∈ rest.head?, next.tainted = false := fun next hnext =>
        hclean next (List.mem_of_mem_head? hnext)
      have hjudged := checkRunsAfter_run before offset ⟨char, true⟩ hrun hrest
      rw [show ⟨char, true⟩ :: List.map _ more = uniform true (char :: more) from rfl, hchars,
        checkRunsAfter_of_clean _ _ hclean] at hjudged
      refine hjudged.trans ?_
      cases separates before <;> simp [valueFault?, hvalue]

-- Text that is judged well and is not clean has a value in it.
theorem exists_value_of_checkRunsAfter {before : Option Cell} {offset : Nat} {text : Text}
    (hok : checkRunsAfter before offset text = .ok ())
    (htainted : ∃ cell ∈ text, cell.tainted = true) :
    ∃ run, run <:+: text ∧ (∀ cell ∈ run, cell.tainted = true) ∧
      isValue (Text.chars run) = true := by
  induction text generalizing before offset with
  | nil =>
      obtain ⟨cell, hcell, -⟩ := htainted
      cases hcell
  | cons cell text ih =>
      cases hcell : cell.tainted with
      | false =>
          rw [checkRunsAfter_clean before offset text hcell] at hok
          have hrest : ∃ other ∈ text, other.tainted = true := by
            obtain ⟨other, hother, hbit⟩ := htainted
            rcases List.mem_cons.mp hother with rfl | hother
            · rw [hcell] at hbit
              cases hbit
            · exact ⟨other, hother, hbit⟩
          obtain ⟨run, hpart, hrun, hvalue⟩ := ih hok hrest
          exact ⟨run, hpart.trans (List.suffix_cons ..).isInfix, hrun, hvalue⟩
      | true =>
          obtain ⟨more, rest, rfl, hrun, hrest⟩ := exists_run_cons text hcell
          rw [← List.cons_append, checkRunsAfter_run before offset cell hrun hrest] at hok
          cases hfault : valueFault? (separates before) (Text.chars (cell :: more)) with
          | some kind => simp [hfault] at hok
          | none =>
              obtain ⟨-, hvalue⟩ := (valueFault?_eq_none_iff ..).mp hfault
              exact ⟨cell :: more, (List.prefix_append ..).isInfix, hrun, hvalue⟩

theorem checkRunsAfter_kind {before : Option Cell} {offset : Nat} {text : Text} {found : Violation}
    (h : checkRunsAfter before offset text = .error found) :
    found.kind = .invalidValue ∨ found.kind = .unseparatedValue := by
  fun_induction checkRunsAfter before offset text with
  | case1 => cases h
  | case2 before offset cell rest _ more kind hfault =>
      cases h
      exact valueFault?_eq_some hfault
  | case3 _ _ _ _ _ _ _ ih => exact ih h
  | case4 _ _ _ _ _ ih => exact ih h

end QueryTaint.Text
