import QueryTaint.Proofs.Campaign.Course
import QueryTaint.Proofs.Campaign.Oracle
import QueryTaint.Proofs.Token.Length

namespace QueryTaint.Campaign

variable {σ μ : Type} [Source σ] {fuel : Nat} {setup : Setup μ} {targetLength : Nat}

-- The counts of a query while it is grown towards the target length.
structure Measured (targetLength : Nat) (iteration : Iteration) : Prop where
  targetLength_eq : iteration.targetLength = targetLength
  tokens_le_length : iteration.tokens ≤ iteration.query.length + iteration.rollbacks
  length_le_tokens :
    iteration.query.length + 513 * iteration.rollbacks ≤ 513 * iteration.tokens
  tokens_le_target : iteration.tokens ≤ targetLength + iteration.rollbacks
  length_le_target : iteration.query.length ≤ targetLength + 512

theorem measured_start (targetLength : Nat) : Measured targetLength (.start targetLength) :=
  ⟨rfl, Nat.zero_le _, Nat.zero_le _, Nat.zero_le _, Nat.zero_le _⟩

-- Before the step the query is shorter than the target length, so it is at most one token over it
-- afterwards.
theorem Measured.step {iteration next : Iteration} {world after : World σ μ} {kind : TokenKind}
    {token : Token} {source : σ} {outcome : Outcome} (h : Measured targetLength iteration)
    (hshort : iteration.isComplete = false)
    (hgenerated : setup.generator.generate fuel iteration.query world.source =
      some ((kind, token), source))
    (hstep : step fuel setup iteration world = some (outcome, next, after))
    (hagrees : ∀ report, outcome ≠ .mismatch report) : Measured targetLength next := by
  obtain ⟨htarget, hkept, hlength, htokens, hreach⟩ := h
  have happly := apply_of_step hgenerated hstep
  have hnextTarget : next.targetLength = iteration.targetLength := by
    rw [targetLength_apply happly]
    rfl
  have hnextTokens : next.tokens = iteration.tokens + 1 := by
    rw [tokens_apply happly]
    rfl
  have hquery := query_apply happly
  have hrollbacks := rollbacks_apply happly
  obtain ⟨hlow, hhigh⟩ := setup.generator.generate_length fuel _ _ _ _ hgenerated
  have hbelow : iteration.query.length < targetLength := by
    rw [← htarget]
    simpa [Iteration.isComplete] using hshort
  cases outcome with
  | mismatch report => exact absurd rfl (hagrees report)
  | advanced =>
      have hnextLength : next.query.length = iteration.query.length + token.text.length := by
        rw [hquery, if_pos rfl, List.length_append]
      have hnextRollbacks : next.rollbacks = iteration.rollbacks := hrollbacks
      constructor <;> omega
  | rolledBack =>
      have hnextLength : next.query.length = iteration.query.length := by
        rw [hquery, if_neg (by simp)]
        rfl
      have hnextRollbacks : next.rollbacks = iteration.rollbacks + 1 := hrollbacks
      constructor <;> omega

theorem Grown.measured {iteration last : Iteration} {world after : World σ μ}
    {candidates : List Text} (h : Grown fuel setup iteration world candidates last after)
    (hmeasured : Measured targetLength iteration) :
    Measured targetLength last ∧ last.isComplete = true := by
  induction h with
  | complete _ _ hcomplete => exact ⟨hmeasured, hcomplete⟩
  | step hshort hgenerated hstep hagrees _ ih =>
      exact ih (hmeasured.step hshort hgenerated hstep hagrees)

-- The report on a query that has been grown to its end.
structure Accounted (maxLength : Nat) (report : IterationReport) : Prop where
  one_le_target : 1 ≤ report.targetLength
  target_le : report.targetLength ≤ maxLength - 1
  target_le_final : report.targetLength ≤ report.finalLength
  final_le : report.finalLength ≤ report.targetLength + 512
  rollbacks_lt : report.rollbacks < report.tokens
  kept_le : report.tokens - report.rollbacks ≤ report.targetLength

theorem Measured.accounted {maxLength : Nat} {iteration : Iteration}
    (h : Measured targetLength iteration) (hcomplete : iteration.isComplete = true)
    (hlow : 1 ≤ targetLength) (hhigh : targetLength ≤ maxLength - 1) :
    Accounted maxLength iteration.report := by
  obtain ⟨htarget, -, hlength, htokens, hreach⟩ := h
  have hdone : iteration.targetLength ≤ iteration.query.length := of_decide_eq_true hcomplete
  subst htarget
  refine ⟨hlow, hhigh, hdone, hreach, ?_, ?_⟩
  · change iteration.rollbacks < iteration.tokens
    omega
  · change iteration.tokens - iteration.rollbacks ≤ iteration.targetLength
    omega

-- Every token has between 1 and 513 cells, whatever the draws are; so a query that is grown to its
-- end, whatever the validator says, has a length and counts that its target length bounds.
theorem lengths_accounted (σ : Type) [Source σ] (setup : Setup μ) :
    (∀ (fuel : Nat) (config : TokenConfig) (query : Text) (kind : TokenKind),
      (Token.generate fuel config query kind : Search σ Token).Always fun token =>
        1 ≤ token.text.length ∧ token.text.length ≤ 513) ∧
    ∀ (fuel : Nat) (world after : World σ μ) (report : IterationReport),
      runIteration fuel setup world = some (.ok report, after) →
        Accounted setup.maxLength report := by
  constructor
  · intro fuel config query kind
    refine (Token.generate_length fuel config query kind).mono fun token hlength => ?_
    exact ⟨hlength.1, Nat.le_trans hlength.2 (Token.longest_le kind)⟩
  · intro fuel world after report hrun
    obtain ⟨candidates, last, hgrown, rfl⟩ := grown_of_complete hrun
    have positive : 0 < setup.maxLength - 1 := Nat.sub_pos_of_lt setup.two_le_maxLength
    have hdrawn := (Source.below (setup.maxLength - 1) positive world.source).1.isLt
    obtain ⟨hmeasured, hcomplete⟩ := hgrown.measured (measured_start _)
    refine hmeasured.accounted hcomplete (Nat.le_add_right 1 _) ?_
    omega

-- A literal with a tainted closing quote is dropped and the next one kept.
theorem lengths_accounted_literals :
    let setup : Setup Unit :=
      ⟨⟨.default, by decide⟩, .reference ⟨false⟩ .reject, 2, by decide⟩
    let report : IterationReport := ⟨1, 2, 2, 1⟩
    let numbers : List Nat := [0, 0, 0, 1, 0, 0, 0, 1, 1]
    let token : Token := ⟨.uniform false ['\'', '\''], .accept⟩
    Token.generate 0 .default [] .stringLiteral [0, 1, 1] = some (token, ([] : List Nat)) ∧
      (1 ≤ token.text.length ∧ token.text.length ≤ 513) ∧
      runIteration 3 setup ⟨numbers, (), .none⟩ = some (.ok report, ⟨[], (), .none⟩) ∧
      Accounted 2 report := by
  intro setup report numbers token
  have hgenerated : Token.generate 0 .default [] .stringLiteral [0, 1, 1] =
      some (token, ([] : List Nat)) := rfl
  have hrun : runIteration 3 setup ⟨numbers, (), .none⟩ =
      some (.ok report, (⟨[], (), .none⟩ : World (List Nat) Unit)) := rfl
  obtain ⟨htokens, hqueries⟩ := lengths_accounted (List Nat) setup
  exact ⟨hgenerated, htokens 0 .default [] .stringLiteral _ _ _ hgenerated, hrun,
    hqueries 3 _ _ report hrun⟩

end QueryTaint.Campaign
