import QueryTaint.Proofs.Campaign.Steps

namespace QueryTaint.Campaign

variable {σ μ : Type} [Source σ]

-- Steps that grow the query to its end. The candidates stand in the order of judging.
inductive Grown (fuel : Nat) (setup : Setup μ) :
    Iteration → World σ μ → List Text → Iteration → World σ μ → Prop where
  | complete (iteration : Iteration) (world : World σ μ) :
    iteration.isComplete = true → Grown fuel setup iteration world [] iteration world
  | step {iteration next last : Iteration} {world middle after : World σ μ} {kind : TokenKind}
    {token : Token} {source : σ} {outcome : Outcome} {candidates : List Text} :
    iteration.isComplete = false →
    setup.generator.generate fuel iteration.query world.source = some ((kind, token), source) →
    step fuel setup iteration world = some (outcome, next, middle) →
    (∀ report, outcome ≠ .mismatch report) →
    Grown fuel setup next middle candidates last after →
      Grown fuel setup iteration world ((iteration.query ++ token.text) :: candidates) last after

variable {fuel : Nat} {setup : Setup μ}

theorem grown_of_complete {steps : Nat} {iteration : Iteration} {world after : World σ μ}
    {report : IterationReport}
    (h : complete fuel setup steps iteration world = some (.ok report, after)) :
    ∃ candidates last, Grown fuel setup iteration world candidates last after ∧
      last.report = report := by
  induction steps generalizing iteration world with
  | zero => cases h
  | succ steps ih =>
      rcases complete_cases h with ⟨hcomplete, hreport, rfl⟩ | ⟨_, _, _, hshort, hstep, hrest⟩
      · cases hreport
        exact ⟨[], iteration, .complete _ _ hcomplete, rfl⟩
      · rcases hrest with ⟨_, -, herror, -⟩ | ⟨hagrees, hrest⟩
        · cases herror
        · obtain ⟨kind, token, source, hgenerated, -⟩ := step_cases hstep
          obtain ⟨candidates, last, hgrown, hreport⟩ := ih hrest
          exact ⟨_, last, .step hshort hgenerated hstep hagrees hgrown, hreport⟩

end QueryTaint.Campaign
