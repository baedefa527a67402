import QueryTaint.Proofs.Campaign.Oracle

namespace QueryTaint

theorem Policy.settle_reject {verdict : Verdict}
    (h : ∀ construct offset, verdict ≠ .error (.malformed construct offset))
    (incidents : Incidents) : reject.settle incidents verdict = (verdict, incidents) := by
  rcases verdict with (found | ⟨construct, offset⟩) | _
  · rfl
  · exact absurd rfl (h construct offset)
  · rfl

namespace Campaign

variable {σ : Type}

theorem verdict_judge {setup : Setup Unit} (candidate : Text) (world : World σ Unit)
    (hreference : setup.validator = .reference setup.generator.config.dialect .reject) :
    (judge setup candidate world).1 = check setup.generator.config.dialect candidate := by
  unfold judge
  rw [hreference]
  exact validate_reject ..

-- The warning of the validator is forgotten right after it.
theorem incidents_judge {setup : Setup Unit} {candidate : Text} (world : World σ Unit)
    (hreference : setup.validator = .reference setup.generator.config.dialect .reject)
    (hnot : ∀ construct offset, check setup.generator.config.dialect candidate ≠
      .error (.malformed construct offset)) :
    (judge setup candidate world).2.incidents =
      if candidate.contains '\x00' then world.incidents.clearWarnings else world.incidents := by
  unfold judge
  rw [hreference]
  simp only [Validator.reference, validate, Policy.settle_reject hnot]
  split
  · rfl
  · rfl

-- What the counters are after the candidates.
structure Tallied (first : Incidents) (candidates : List Text) (last : Incidents) : Prop where
  errors : last.errors = first.errors
  vulns : last.vulns = first.vulns
  warnings : last.warnings = if candidates.any (·.contains '\x00') then 0 else first.warnings

variable {first : Incidents} {candidates : List Text} {last : Incidents}

theorem tallied_nil (first : Incidents) : Tallied first [] first := ⟨rfl, rfl, rfl⟩

theorem Tallied.concat (h : Tallied first candidates last) (candidate : Text) :
    Tallied first (candidates ++ [candidate])
      (if candidate.contains '\x00' then last.clearWarnings else last) := by
  cases hcontains : candidate.contains '\x00' with
  | true => exact ⟨h.errors, h.vulns, by simp [hcontains, Incidents.clearWarnings]⟩
  | false => exact ⟨h.errors, h.vulns, by simp [hcontains, h.warnings]⟩

theorem Tallied.isClean (h : Tallied first candidates last) (hclean : first.isClean = true) :
    last.isClean = true := by
  obtain ⟨herrors, hvulns, hwarnings⟩ := h
  rw [of_decide_eq_true hclean] at herrors hvulns hwarnings
  have hzero : last.warnings = 0 := by
    rw [hwarnings]
    split <;> rfl
  apply decide_eq_true
  cases last
  cases herrors
  cases hvulns
  cases hzero
  rfl

variable [Source σ]

-- Queries are begun and lengthened in any order since the world was `first`, also from an earlier
-- copy: the candidates that have been judged, earliest first, all that the queries have been, and
-- what the world has become.
inductive Driven {μ : Type} (setup : Setup μ) (first : World σ μ) :
    List Text → List Iteration → World σ μ → Prop where
  | start : Driven setup first [] [] first
  | begin {candidates : List Text} {iterations : List Iteration} {world : World σ μ} :
    Driven setup first candidates iterations world →
      Driven setup first candidates ((begin setup world).1 :: iterations) (begin setup world).2
  | step {candidates : List Text} {iterations : List Iteration} {world after : World σ μ}
    {iteration next : Iteration} {fuel : Nat} {kind : TokenKind} {token : Token} {source : σ}
    {outcome : Outcome} :
    Driven setup first candidates iterations world → iteration ∈ iterations →
      setup.generator.generate fuel iteration.query world.source = some ((kind, token), source) →
      step fuel setup iteration world = some (outcome, next, after) →
        Driven setup first (candidates ++ [iteration.query ++ token.text]) (next :: iterations)
          after

section Driven

variable {μ : Type} {setup : Setup μ} {first world after : World σ μ} {candidates : List Text}
  {iterations : List Iteration}

theorem Driven.reached (h : Driven setup first candidates iterations world) :
    ∀ iteration ∈ iterations, Reached σ setup iteration := by
  induction h with
  | start =>
      intro iteration hmem
      cases hmem
  | begin _ ih =>
      intro iteration hmem
      rcases List.mem_cons.mp hmem with rfl | hmem
      · exact .begin _
      · exact ih iteration hmem
  | step _ hiteration _ hstep ih =>
      intro iteration hmem
      rcases List.mem_cons.mp hmem with rfl | hmem
      · exact .step (ih _ hiteration) hstep
      · exact ih iteration hmem

-- Stepping to the end of a query, or to a disagreement.
theorem Driven.complete {fuel steps : Nat} {iteration : Iteration}
    {result : Except Report IterationReport}
    (h : Driven setup first candidates iterations world) (hmem : iteration ∈ iterations)
    (hcomplete : complete fuel setup steps iteration world = some (result, after)) :
    ∃ candidates iterations, Driven setup first candidates iterations after := by
  induction steps generalizing candidates iterations iteration world with
  | zero => cases hcomplete
  | succ steps ih =>
      rcases complete_cases hcomplete with ⟨-, -, rfl⟩ | ⟨_, _, _, -, hstep, hrest⟩
      · exact ⟨_, _, h⟩
      · obtain ⟨kind, token, source, hgenerated, -⟩ := step_cases hstep
        have hdriven := Driven.step h hmem hgenerated hstep
        rcases hrest with ⟨_, -, -, rfl⟩ | ⟨-, hrest⟩
        · exact ⟨_, _, hdriven⟩
        · exact ih hdriven List.mem_cons_self hrest

theorem Driven.runAfter {fuel count : Nat} {before done : List IterationReport}
    {report : Option Report} (h : Driven setup first candidates iterations world)
    (hrun : runAfter fuel setup before count world = some (done, report, after)) :
    ∃ candidates iterations, Driven setup first candidates iterations after := by
  induction count generalizing candidates iterations before world with
  | zero =>
      cases hrun
      exact ⟨_, _, h⟩
  | succ count ih =>
      rcases runAfter_cases hrun with ⟨_, hiteration, -⟩ | ⟨_, _, hiteration, hrest⟩
      · exact h.begin.complete List.mem_cons_self hiteration
      · obtain ⟨_, _, hdriven⟩ := h.begin.complete List.mem_cons_self hiteration
        exact ih hdriven hrest

end Driven

-- A step adds its candidate to the tally.
theorem Driven.tallied {setup : Setup Unit} {first world : World σ Unit} {candidates : List Text}
    {iterations : List Iteration} (h : Driven setup first candidates iterations world)
    (hreference : setup.validator = .reference setup.generator.config.dialect .reject) :
    Tallied first.incidents candidates world.incidents := by
  induction h with
  | start => exact tallied_nil _
  | begin _ ih => exact ih
  | step hdriven hmem hgenerated hstep ih =>
      have hnot := (hdriven.reached _ hmem).not_malformed hgenerated
      rw [world_of_step hgenerated hstep, incidents_judge _ hreference hnot]
      exact ih.concat _

-- With the reference validator a campaign leaves the counters of errors and of accepted violations
-- as they were, and that of warnings too until a candidate holds a null character, which sets it to
-- zero. A clean log stays clean, over whole runs as well.
theorem counters_tallied (setup : Setup Unit)
    (hreference : setup.validator = .reference setup.generator.config.dialect .reject)
    (first : World σ Unit) :
    (∀ candidates iterations world, Driven setup first candidates iterations world →
      Tallied first.incidents candidates world.incidents ∧
        (first.incidents.isClean = true → world.incidents.isClean = true)) ∧
    ∀ fuel count done report after, run fuel setup count first = some (done, report, after) →
      ∃ candidates iterations, Driven setup first candidates iterations after := by
  constructor
  · intro candidates iterations world h
    have htallied := h.tallied hreference
    exact ⟨htallied, htallied.isClean⟩
  · intro fuel count done report after hrun
    exact Driven.start.runAfter hrun

-- A literal with a null character is kept, and the two warnings from before are gone.
theorem counters_tallied_null :
    let setup : Setup Unit :=
      ⟨⟨.default, by decide⟩, .reference ⟨false⟩ .reject, 2, by decide⟩
    let first : World (List Nat) Unit := ⟨[0, 0, 1, 1, 0, 0, 0, 1], (), ⟨1, 2, 3⟩⟩
    let literal : Text := .uniform false ['\'', '\x00', '\'']
    let kept : Iteration := ⟨literal, [.token .stringLiteral], 1, 1, 0⟩
    let after : World (List Nat) Unit := ⟨[], (), ⟨1, 0, 3⟩⟩
    setup.validator = .reference setup.generator.config.dialect .reject ∧
      Driven setup first [literal] [kept, .start 1] after ∧
      Tallied first.incidents [literal] after.incidents := by
  intro setup first literal kept after
  have hreference : setup.validator = .reference setup.generator.config.dialect .reject := rfl
  have hbegin : Driven setup first [] [.start 1] ⟨[0, 1, 1, 0, 0, 0, 1], (), ⟨1, 2, 3⟩⟩ :=
    .begin .start
  have hstep : step 0 setup (.start 1) ⟨[0, 1, 1, 0, 0, 0, 1], (), ⟨1, 2, 3⟩⟩ =
      some (.advanced, kept, after) := rfl
  have hdriven : Driven setup first [literal] [kept, .start 1] after :=
    .step hbegin List.mem_cons_self rfl hstep
  obtain ⟨htallied, -⟩ := (counters_tallied setup hreference first).1 _ _ _ hdriven
  exact ⟨hreference, hdriven, htallied⟩

end Campaign

end QueryTaint
