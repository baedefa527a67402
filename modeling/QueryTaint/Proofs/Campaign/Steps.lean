import QueryTaint.Campaign.Iteration

namespace QueryTaint.Campaign

variable {σ μ : Type} [Source σ] {setup : Setup μ}

theorem step_of_generate {fuel : Nat} {iteration : Iteration} {world : World σ μ} {kind : TokenKind}
    {token : Token} {source : σ}
    (h : setup.generator.generate fuel iteration.query world.source =
      some ((kind, token), source)) :
    step fuel setup iteration world =
      let candidate := iteration.query ++ token.text
      let (verdict, after) := judge setup candidate { world with source }
      let (outcome, next) :=
        (iteration.note kind).apply candidate (settle token.expectation verdict)
      some (outcome, next, after) := by
  unfold step
  rw [h]
  rfl

theorem apply_of_step {fuel : Nat} {iteration next : Iteration} {world after : World σ μ}
    {kind : TokenKind} {token : Token} {source : σ} {outcome : Outcome}
    (hgenerated : setup.generator.generate fuel iteration.query world.source =
      some ((kind, token), source))
    (hstep : step fuel setup iteration world = some (outcome, next, after)) :
    (outcome, next) = (iteration.note kind).apply (iteration.query ++ token.text)
      (settle token.expectation (judge setup (iteration.query ++ token.text)
        { world with source }).1) := by
  rw [step_of_generate hgenerated] at hstep
  cases hstep
  rfl

theorem world_of_step {fuel : Nat} {iteration next : Iteration} {world after : World σ μ}
    {kind : TokenKind} {token : Token} {source : σ} {outcome : Outcome}
    (hgenerated : setup.generator.generate fuel iteration.query world.source =
      some ((kind, token), source))
    (hstep : step fuel setup iteration world = some (outcome, next, after)) :
    after = (judge setup (iteration.query ++ token.text) { world with source }).2 := by
  rw [step_of_generate hgenerated] at hstep
  cases hstep
  rfl

theorem step_cases {fuel : Nat} {iteration next : Iteration} {world after : World σ μ}
    {outcome : Outcome} (h : step fuel setup iteration world = some (outcome, next, after)) :
    ∃ kind token source,
      setup.generator.generate fuel iteration.query world.source = some ((kind, token), source) ∧
      (outcome, next) = (iteration.note kind).apply (iteration.query ++ token.text)
        (settle token.expectation (judge setup (iteration.query ++ token.text)
          { world with source }).1) := by
  cases hgenerated : setup.generator.generate fuel iteration.query world.source with
  | none =>
      unfold step at h
      rw [hgenerated] at h
      cases h
  | some result =>
      obtain ⟨⟨kind, token⟩, source⟩ := result
      exact ⟨kind, token, source, rfl, apply_of_step hgenerated h⟩

-- A query is complete already, or it ends with the disagreement of the next step, or that step goes
-- before the others.
theorem complete_cases {fuel steps : Nat} {iteration : Iteration} {world after : World σ μ}
    {result : Except Report IterationReport}
    (h : complete fuel setup (steps + 1) iteration world = some (result, after)) :
    (iteration.isComplete = true ∧ result = .ok iteration.report ∧ after = world) ∨
    ∃ outcome next middle, iteration.isComplete = false ∧
      step fuel setup iteration world = some (outcome, next, middle) ∧
      ((∃ report, outcome = .mismatch report ∧ result = .error report ∧ after = middle) ∨
        (∀ report, outcome ≠ .mismatch report) ∧
          complete fuel setup steps next middle = some (result, after)) := by
  unfold complete at h
  cases hcomplete : iteration.isComplete with
  | true =>
      rw [hcomplete, if_pos rfl] at h
      cases h
      exact .inl ⟨rfl, rfl, rfl⟩
  | false =>
      rw [hcomplete, if_neg Bool.false_ne_true] at h
      cases hstep : step fuel setup iteration world with
      | none =>
          rw [hstep] at h
          cases h
      | some taken =>
          obtain ⟨outcome, next, middle⟩ := taken
          rw [hstep] at h
          refine .inr ⟨outcome, next, middle, rfl, rfl, ?_⟩
          cases outcome with
          | mismatch report =>
              cases h
              exact .inl ⟨report, rfl, rfl, rfl⟩
          | advanced | rolledBack => exact .inr ⟨by simp, h⟩

-- The next query ends in a disagreement, or it goes before the others.
theorem runAfter_cases {fuel count : Nat} {done reports : List IterationReport}
    {report : Option Report} {world after : World σ μ}
    (h : runAfter fuel setup done (count + 1) world = some (reports, report, after)) :
    (∃ found, runIteration fuel setup world = some (.error found, after) ∧
      reports = done.reverse ∧ report = some found) ∨
    ∃ last middle, runIteration fuel setup world = some (.ok last, middle) ∧
      runAfter fuel setup (last :: done) count middle = some (reports, report, after) := by
  unfold runAfter at h
  cases hiteration : runIteration fuel setup world with
  | none =>
      rw [hiteration] at h
      cases h
  | some ended =>
      obtain ⟨result, middle⟩ := ended
      rw [hiteration] at h
      cases result with
      | error found =>
          cases h
          exact .inl ⟨found, rfl, rfl, rfl⟩
      | ok last => exact .inr ⟨last, middle, rfl, h⟩

-- What a settlement makes of an iteration, field by field.
section Apply

variable {iteration next : Iteration} {candidate : Text} {settlement : Settlement}
  {outcome : Outcome}

theorem query_apply (h : (outcome, next) = iteration.apply candidate settlement) :
    next.query = if outcome = .advanced then candidate else iteration.query := by
  cases settlement <;> cases h <;> rfl

theorem operations_apply (h : (outcome, next) = iteration.apply candidate settlement) :
    next.operations =
      iteration.operations ++ if outcome = .rolledBack then [.exception] else [] := by
  cases settlement <;> cases h <;> simp

theorem tokens_apply (h : (outcome, next) = iteration.apply candidate settlement) :
    next.tokens = iteration.tokens := by
  cases settlement <;> cases h <;> rfl

theorem rollbacks_apply (h : (outcome, next) = iteration.apply candidate settlement) :
    next.rollbacks = iteration.rollbacks + if outcome = .rolledBack then 1 else 0 := by
  cases settlement <;> cases h <;> rfl

theorem targetLength_apply (h : (outcome, next) = iteration.apply candidate settlement) :
    next.targetLength = iteration.targetLength := by
  cases settlement <;> cases h <;> rfl

theorem report_apply {report : Report}
    (h : (.mismatch report, next) = iteration.apply candidate settlement) :
    report.query = candidate ∧ report.operations = iteration.operations ∧ next = iteration := by
  cases settlement <;> cases h
  exact ⟨rfl, rfl, rfl⟩

end Apply

-- The outcome of a step, by what is expected and by the verdict of the validator.

theorem advanced_iff (iteration : Iteration) (candidate : Text) (expectation : Expectation)
    (verdict : Verdict) :
    (iteration.apply candidate (settle expectation verdict)).1 = .advanced ↔
      expectation = .accept ∧ verdict = .ok () := by
  rcases verdict with (found | ⟨construct, offset⟩) | _ <;>
    cases expectation <;> simp [settle, Iteration.apply]

theorem accept_of_advanced {iteration next : Iteration} {candidate : Text}
    {expectation : Expectation} {verdict : Verdict}
    (h : (.advanced, next) = iteration.apply candidate (settle expectation verdict)) :
    expectation = .accept :=
  ((advanced_iff _ _ _ _).mp (congrArg Prod.fst h).symm).1

variable (σ) (setup)

-- What a query can have become after any number of steps.
inductive Reached : Iteration → Prop where
  | begin (world : World σ μ) : Reached (begin setup world).1
  | step {iteration next : Iteration} {fuel : Nat} {world after : World σ μ} {outcome : Outcome} :
    Reached iteration → step fuel setup iteration world = some (outcome, next, after) → Reached next

end QueryTaint.Campaign
