import QueryTaint.Validator
import QueryTaint.Proofs.Text.Positions
import QueryTaint.Proofs.Scan.Plain

namespace QueryTaint

namespace Text

-- The run is one whole value and stands where a value may begin.
def Admits (text : Text) (run : Span) : Prop :=
  separates (text.before? run.start) = true ∧
    ∃ value, text.slice run.start run.stop = .ok value ∧ isValue value.chars = true

-- The position stands in a tainted run that has begun before it.
def MidRun (text : Text) (offset : Nat) : Prop :=
  0 < offset ∧ text.taintedAt (offset - 1) = true ∧ text.taintedAt offset = true

-- No run from `offset` on is bad but this one and later ones.
structure FirstBad (text : Text) (offset : Nat) (run : Span) : Prop where
  mem : run ∈ text.taintedRuns
  from_offset : offset ≤ run.start
  bad : ¬text.Admits run
  earlier : ∀ other ∈ text.taintedRuns, offset ≤ other.start → other.start < run.start →
    text.Admits other

-- The violation that a bad run is. Its place is looked at before its content.
def violationAt (text : Text) (run : Span) : Violation :=
  ⟨if separates (text.before? run.start) then .invalidValue else .unseparatedValue, run.start⟩

-- What is wrong with a run of the text, if anything is.
def runFault? (text : Text) (run : Span) : Option Violation :=
  (valueFault? (separates (text.before? run.start))
    (Text.chars ((text.take run.stop).drop run.start))).map (Violation.mk · run.start)

-- Judges the runs on a list, from the first one on.
def judgeRuns (text : Text) (runs : List Span) : Except Violation Unit :=
  match runs.findSome? text.runFault? with
  | some found => .error found
  | none => .ok ()

theorem runFault?_append (left run rest : Text) :
    (left ++ (run ++ rest)).runFault? ⟨left.length, left.length + run.length⟩ =
      (valueFault? (separates left.getLast?) run.chars).map (Violation.mk · left.length) := by
  have hcells :
      ((left ++ (run ++ rest)).take (left.length + run.length)).drop left.length = run := by
    rw [← List.append_assoc, ← List.length_append, List.take_left, List.drop_left]
  rw [runFault?, before?_append, hcells]

theorem judgeRuns_cons (text : Text) (run : Span) (runs : List Span) :
    text.judgeRuns (run :: runs) =
      match text.runFault? run with
      | some found => .error found
      | none => text.judgeRuns runs := by
  unfold judgeRuns
  rw [List.findSome?_cons]
  cases text.runFault? run <;> rfl

-- The cells of `right` and the list of its runs are judged alike.
theorem checkRunsAfter_eq_judgeRuns (left right : Text) :
    right.checkRunsAfter left.getLast? left.length =
      (left ++ right).judgeRuns (right.taintedRunsFrom left.length) := by
  induction right using runInduction generalizing left with
  | nil =>
      rw [checkRunsAfter]
      rfl
  | clean cell rest hcell ih =>
      have hrest := ih (left ++ [cell])
      rw [List.getLast?_concat, List.length_append, List.length_singleton, List.append_assoc,
        List.singleton_append] at hrest
      rw [checkRunsAfter_clean _ _ rest hcell, taintedRunsFrom_clean _ rest hcell, hrest]
  | run cell more rest hrun hhead ih =>
      rw [checkRunsAfter_run _ _ cell hrun hhead,
        taintedRunsFrom_run _ (List.cons_ne_nil cell more) hrun hhead, judgeRuns_cons,
        runFault?_append]
      cases valueFault? (separates left.getLast?) (Text.chars (cell :: more)) with
      | some kind => rfl
      | none =>
          -- After the run nothing is separated, be it after its first cell or after its last one.
          have hlast := Scan.separates_after_run left (List.cons_ne_nil cell more) hrun
          have hfirst := Scan.separates_tainted (hrun cell (List.mem_cons_self ..))
          have hrest := ih (left ++ cell :: more)
          rw [List.length_append, List.append_assoc] at hrest
          exact (checkRunsAfter_congr (hfirst.trans hlast.symm) ..).trans hrest

theorem runsOn_iff_midRun (left right : Text) :
    RunsOn left right ↔ (left ++ right).MidRun left.length := by
  rcases List.eq_nil_or_concat left with rfl | ⟨front, last, rfl⟩
  · simp [RunsOn, MidRun]
  rw [List.concat_eq_append]
  cases right with
  | nil => simp [RunsOn, MidRun, taintedAt]
  | cons first right =>
      have hlast := taintedAt_append front last (first :: right)
      have hfirst := taintedAt_append (front ++ [last]) first right
      rw [List.append_assoc, List.singleton_append] at hfirst
      simp only [List.length_append, List.length_singleton] at hfirst
      simp [RunsOn, MidRun, hlast, hfirst]

theorem checkRuns_of_midRun {text : Text} {offset : Nat} (h : text.MidRun offset) :
    text.checkRuns offset = .error ⟨.unseparatedValue, offset⟩ := by
  have hoffset := length_of_taintedAt h.2.2
  obtain ⟨left, right, rfl, rfl⟩ := exists_cut (Nat.le_of_lt hoffset)
  obtain ⟨last, hlast, first, hfirst, hlastTainted, hfirstTainted⟩ :=
    (runsOn_iff_midRun left right).mpr h
  obtain ⟨rest, rfl⟩ := List.head?_eq_some_iff.mp hfirst
  rw [checkRuns_append, Option.mem_def.mp hlast, checkRunsAfter, if_pos hfirstTainted]
  simp [valueFault?, Scan.separates_tainted hlastTainted]

-- The runs that begin at or after a position inside of none of them.
theorem filter_taintedRuns {left right : Text} (h : ¬RunsOn left right) :
    (left ++ right).taintedRuns.filter (left.length ≤ ·.start) =
      right.taintedRunsFrom left.length := by
  rw [taintedRuns, taintedRunsFrom_append 0 h, Nat.zero_add, List.filter_append,
    List.filter_eq_nil_iff.mpr, List.filter_eq_self.mpr, List.nil_append]
  · intro run hrun
    have hbounds := bounds_of_mem_taintedRunsFrom right hrun
    simpa using hbounds.1
  · intro run hrun
    have hbounds := bounds_of_mem_taintedRunsFrom left hrun
    simp only [decide_eq_true_eq]
    omega

theorem checkRuns_eq_judgeRuns {text : Text} {offset : Nat} (h : ¬text.MidRun offset) :
    text.checkRuns offset = text.judgeRuns (text.taintedRuns.filter (offset ≤ ·.start)) := by
  by_cases hoffset : offset ≤ text.length
  · obtain ⟨left, right, rfl, rfl⟩ := exists_cut hoffset
    have hcut : ¬RunsOn left right := fun hboth => h ((runsOn_iff_midRun left right).mp hboth)
    rw [checkRuns_append, filter_taintedRuns hcut, checkRunsAfter_eq_judgeRuns]
  · have hnone : text.taintedRuns.filter (offset ≤ ·.start) = [] := by
      refine List.filter_eq_nil_iff.mpr fun run hrun => ?_
      have hbounds := bounds_of_mem_taintedRunsFrom text hrun
      simp only [decide_eq_true_eq]
      omega
    rw [hnone, checkRuns, List.drop_eq_nil_of_le (by omega), checkRunsAfter]
    rfl

theorem runFault?_eq_none_iff {text : Text} {run : Span} (hrun : run ∈ text.taintedRuns) :
    text.runFault? run = none ↔ text.Admits run := by
  have hbounds := bounds_of_mem_taintedRunsFrom text hrun
  have hslice : text.slice run.start run.stop = .ok ((text.take run.stop).drop run.start) :=
    if_pos ⟨by omega, by omega⟩
  simp [runFault?, Admits, valueFault?_eq_none_iff, hslice]

theorem runFault?_of_bad {text : Text} {run : Span} (hrun : run ∈ text.taintedRuns)
    (hbad : ¬text.Admits run) : text.runFault? run = some (text.violationAt run) := by
  have hfault := fun hnone => hbad ((runFault?_eq_none_iff hrun).mp hnone)
  revert hfault
  unfold runFault? violationAt valueFault?
  cases separates (text.before? run.start) with
  | false => simp
  | true => cases isValue (Text.chars ((text.take run.stop).drop run.start)) <;> simp

theorem judgeRuns_eq_ok_iff (text : Text) (runs : List Span) :
    text.judgeRuns runs = .ok () ↔ ∀ run ∈ runs, text.runFault? run = none := by
  rw [← List.findSome?_eq_none_iff, judgeRuns]
  cases runs.findSome? text.runFault? <;> simp

-- On a list in order of the text, what is found first stands first.
theorem judgeRuns_eq_error_iff (text : Text) {runs : List Span}
    (hsorted : runs.Pairwise fun first second => first.start < second.start) (found : Violation) :
    text.judgeRuns runs = .error found ↔
      ∃ run ∈ runs, text.runFault? run = some found ∧
        ∀ other ∈ runs, other.start < run.start → text.runFault? other = none := by
  induction runs with
  | nil => simp [judgeRuns]
  | cons run runs ih =>
      obtain ⟨hafter, hsorted⟩ := List.pairwise_cons.mp hsorted
      rw [judgeRuns_cons]
      cases hfault : text.runFault? run with
      | none =>
          dsimp only
          rw [ih hsorted]
          simp [hfault]
      | some first =>
          constructor
          · intro h
            cases h
            refine ⟨run, List.mem_cons_self .., hfault, fun other hother hbefore => ?_⟩
            rcases List.mem_cons.mp hother with rfl | hother
            · omega
            · have hlater := hafter other hother
              omega
          · rintro ⟨later, hlater, hfound, hbefore⟩
            rcases List.mem_cons.mp hlater with rfl | hlater
            · rw [hfault] at hfound
              rw [Option.some.inj hfound]
            · rw [hbefore run (List.mem_cons_self ..) (hafter later hlater)] at hfault
              cases hfault

theorem sorted_taintedRuns (text : Text) :
    text.taintedRuns.Pairwise fun first second => first.start < second.start := by
  refine (pairwise_taintedRunsFrom 0 text).imp_of_mem fun hfirst _ hapart => ?_
  have hbounds := bounds_of_mem_taintedRunsFrom text hfirst
  omega

theorem checkRuns_eq_ok_iff {text : Text} {offset : Nat} (h : ¬text.MidRun offset) :
    text.checkRuns offset = .ok () ↔
      ∀ run ∈ text.taintedRuns, offset ≤ run.start → text.Admits run := by
  rw [checkRuns_eq_judgeRuns h, judgeRuns_eq_ok_iff]
  constructor
  · intro hnone run hrun hoffset
    exact (runFault?_eq_none_iff hrun).mp (hnone run (by simp [hrun, hoffset]))
  · intro hadmits run hmem
    obtain ⟨hrun, hoffset⟩ := List.mem_filter.mp hmem
    exact (runFault?_eq_none_iff hrun).mpr (hadmits run hrun (by simpa using hoffset))

theorem checkRuns_eq_error_iff {text : Text} {offset : Nat} (h : ¬text.MidRun offset)
    (found : Violation) :
    text.checkRuns offset = .error found ↔
      ∃ run, text.FirstBad offset run ∧ found = text.violationAt run := by
  rw [checkRuns_eq_judgeRuns h, judgeRuns_eq_error_iff text ((sorted_taintedRuns text).filter _)]
  constructor
  · rintro ⟨run, hmem, hfault, hbefore⟩
    obtain ⟨hrun, hoffset⟩ := List.mem_filter.mp hmem
    have hbad : ¬text.Admits run := by
      intro hadmits
      rw [(runFault?_eq_none_iff hrun).mpr hadmits] at hfault
      cases hfault
    refine ⟨run, ⟨hrun, by simpa using hoffset, hbad, fun other hother hfrom hlt => ?_⟩, ?_⟩
    · exact (runFault?_eq_none_iff hother).mp (hbefore other (by simp [hother, hfrom]) hlt)
    · rw [runFault?_of_bad hrun hbad] at hfault
      exact (Option.some.inj hfault).symm
  · rintro ⟨run, hfirst, rfl⟩
    have hmem : run ∈ text.taintedRuns.filter (offset ≤ ·.start) := by
      simp [hfirst.mem, hfirst.from_offset]
    refine ⟨run, hmem, runFault?_of_bad hfirst.mem hfirst.bad, fun other hother hlt => ?_⟩
    obtain ⟨hrun, hfrom⟩ := List.mem_filter.mp hother
    exact (runFault?_eq_none_iff hrun).mpr
      (hfirst.earlier other hrun (by simpa using hfrom) hlt)

end Text

-- Up to the end of a plain text the scanner judges the values only.
theorem complete_plain_end (dialect : Dialect) (before : Option Cell) (offset : Nat)
    (items : List Item) {text : Text} (h : Scan.Plain text) :
    (Scan.complete dialect ⟨offset, .code (separates before), items⟩ text >>= fun _ => .ok ()) =
      (text.checkRunsAfter before offset).mapError .violation := by
  have hended : Scan.Ended text [] := fun _ _ _ hnext => nomatch hnext
  have hcomplete := Scan.complete_plainText dialect before offset items text [] h hended
  rw [List.append_nil] at hcomplete
  rw [hcomplete]
  cases text.checkRunsAfter before offset <;> rfl

-- From a position on the oracle for values judges the maximal runs and nothing else, and of a plain
-- text the validator says what the oracle says of all of it.
theorem Text.checkRuns_judges (text : Text) (offset : Nat) :
    (text.MidRun offset → text.checkRuns offset = .error ⟨.unseparatedValue, offset⟩) ∧
      (¬text.MidRun offset →
        (text.checkRuns offset = .ok () ↔
          ∀ run ∈ text.taintedRuns, offset ≤ run.start → text.Admits run) ∧
        ∀ found, text.checkRuns offset = .error found ↔
          ∃ run, text.FirstBad offset run ∧ found = text.violationAt run) ∧
      (Scan.Plain text → ∀ (dialect : Dialect) (incidents : Incidents),
        (validate dialect .reject text incidents).1 = (text.checkRuns 0).mapError .violation) := by
  refine ⟨checkRuns_of_midRun, fun hmid => ?_, fun hplain dialect incidents => ?_⟩
  · exact ⟨checkRuns_eq_ok_iff hmid, checkRuns_eq_error_iff hmid⟩
  · rw [validate_reject, Scan.check_eq_complete]
    exact complete_plain_end dialect none 0 [] hplain

-- The run is well placed and its content is bad; judged from its second cell on, it is the place
-- that is bad.
theorem Text.checkRuns_judges_letter :
    let text : Text := .uniform false [','] ++ .uniform true ['7', 'x']
    text.MidRun 2 ∧ text.checkRuns 2 = .error ⟨.unseparatedValue, 2⟩ ∧ ¬text.MidRun 0 ∧
      (∃ run, text.FirstBad 0 run ∧ ⟨.invalidValue, 1⟩ = text.violationAt run) ∧
      Scan.Plain text ∧
      (validate ⟨true⟩ .reject text .none).1 = (text.checkRuns 0).mapError .violation := by
  intro text
  have hinside : text.MidRun 2 := ⟨by decide, rfl, rfl⟩
  have hstart : ¬text.MidRun 0 := fun h => absurd h.1 (by decide)
  have hplain : Scan.Plain text := by simp [text, Text.uniform, Scan.Plain, Scan.opensComment]
  obtain ⟨hmid, -, -⟩ := checkRuns_judges text 2
  obtain ⟨-, hjudged, hvalidate⟩ := checkRuns_judges text 0
  have hsame := hvalidate hplain ⟨true⟩ .none
  have hverdict : (validate ⟨true⟩ .reject text .none).1 =
      .error (.violation ⟨.invalidValue, 1⟩) := rfl
  have hfound : text.checkRuns 0 = .error ⟨.invalidValue, 1⟩ := by
    rw [hverdict] at hsame
    cases hchecked : text.checkRuns 0 with
    | ok _ =>
        rw [hchecked] at hsame
        cases hsame
    | error found =>
        rw [hchecked] at hsame
        cases hsame
        rfl
  exact ⟨hinside, hmid hinside, hstart, ((hjudged hstart).2 _).mp hfound, hplain, hsame⟩

end QueryTaint
