import QueryTaint.Proofs.Campaign.Counters
import QueryTaint.Proofs.Campaign.History
import QueryTaint.Proofs.Token.Faultless
import QueryTaint.Proofs.Token.Length

namespace QueryTaint

-- Nothing that has odds happens, and there are no block comments.
structure TokenConfig.Faultless (config : TokenConfig) : Prop where
  odds_eq : config.odds = .never
  blockComment_notMem : .blockComment ∉ config.kinds

namespace Campaign

variable {σ : Type} [Source σ]

-- What a step that keeps its token makes of an iteration.
structure Forward (iteration next : Iteration) : Prop where
  length_lt : iteration.query.length < next.query.length
  rollbacks_eq : next.rollbacks = iteration.rollbacks
  targetLength_eq : next.targetLength = iteration.targetLength

-- The query begun in the world `first` after a number of steps, each of them taken while it was not
-- complete.
inductive Underway {μ : Type} (fuel : Nat) (setup : Setup μ) (first : World σ μ) :
    Nat → Iteration → World σ μ → Prop where
  | begin : Underway fuel setup first 0 (begin setup first).1 (begin setup first).2
  | step {count : Nat} {iteration next : Iteration} {world after : World σ μ} {outcome : Outcome} :
    Underway fuel setup first count iteration world → iteration.isComplete = false →
    step fuel setup iteration world = some (outcome, next, after) →
      Underway fuel setup first (count + 1) next after

section Underway

variable {μ : Type} {fuel count : Nat} {setup : Setup μ} {first world : World σ μ}
  {iteration : Iteration}

theorem Underway.history (h : Underway fuel setup first count iteration world) :
    ∃ steps, History σ setup steps iteration ∧ steps.length = count := by
  induction h with
  | begin => exact ⟨[], .begin first, rfl⟩
  | step _ _ hstep ih =>
      obtain ⟨steps, hhistory, rfl⟩ := ih
      obtain ⟨kind, token, source, hgenerated, -⟩ := step_cases hstep
      exact ⟨_, .step _ _ hhistory hgenerated hstep, List.length_append⟩

theorem isComplete_eq_false_iff (iteration : Iteration) :
    iteration.isComplete = false ↔ iteration.query.length < iteration.targetLength := by
  simp [Iteration.isComplete]

theorem choose_of_step_eq_none (h : step fuel setup iteration world = none) :
    (setup.generator.choose world.source).1 = .other := by
  cases hgenerated : setup.generator.generate fuel iteration.query world.source with
  | none => exact setup.generator.choose_of_generate_eq_none hgenerated
  | some drawn =>
      obtain ⟨⟨kind, token⟩, source⟩ := drawn
      rw [step_of_generate hgenerated] at h
      cases h

end Underway

section Reference

variable {setup : Setup Unit} {fuel : Nat} {iteration : Iteration}
  (hreference : setup.validator = .reference setup.generator.config.dialect .reject)
  (hfaultless : setup.generator.config.Faultless)

include hreference hfaultless

-- The token is expected to pass, so the reference validator lets it pass.
theorem Reached.advances {next : Iteration} {world after : World σ Unit} {outcome : Outcome}
    (h : Reached σ setup iteration)
    (hstep : Campaign.step fuel setup iteration world = some (outcome, next, after)) :
    outcome = .advanced ∧ Forward iteration next := by
  obtain ⟨kind, token, source, hgenerated, happly⟩ := step_cases hstep
  have haccept := setup.generator.generate_accepts hfaultless.odds_eq
    hfaultless.blockComment_notMem _ _ _ _ _ hgenerated
  have hverdict := (h.accepts_iff hgenerated).mpr haccept
  obtain ⟨hpos, -⟩ := setup.generator.generate_length _ _ _ _ _ hgenerated
  rw [haccept, verdict_judge _ _ hreference, hverdict] at happly
  cases happly
  refine ⟨rfl, ?_, rfl, rfl⟩
  change iteration.query.length < (iteration.query ++ token.text).length
  rw [List.length_append]
  omega

theorem History.advanced {steps : List Taken} (h : History σ setup steps iteration) :
    (∀ taken ∈ steps, taken.outcome = .advanced) ∧ iteration.rollbacks = 0 ∧
      steps.length ≤ iteration.query.length := by
  induction h with
  | begin world => exact ⟨by simp, rfl, Nat.zero_le _⟩
  | step fuel world hhistory hgenerated hstep ih =>
      obtain ⟨hall, hrollbacks, hlength⟩ := ih
      have hreached := reached_iff_history.mpr ⟨_, hhistory⟩
      obtain ⟨hadvanced, hforward⟩ := hreached.advances hreference hfaultless hstep
      have hlonger := hforward.length_lt
      refine ⟨List.forall_mem_append.mpr ⟨hall, by simpa using hadvanced⟩, ?_, ?_⟩
      · rw [hforward.rollbacks_eq, hrollbacks]
      · rw [List.length_append, List.length_singleton]
        omega

variable {count : Nat} {first world : World σ Unit}

-- A step that is taken while the query is too short is one of the first ones.
theorem Underway.count_le (h : Underway fuel setup first count iteration world) :
    count ≤ iteration.targetLength := by
  cases h with
  | begin => exact Nat.zero_le _
  | step hunderway hshort hstep =>
      obtain ⟨steps, hhistory, hcount⟩ := hunderway.history
      obtain ⟨-, -, hlength⟩ := hhistory.advanced hreference hfaultless
      have hreached := reached_iff_history.mpr ⟨_, hhistory⟩
      obtain ⟨-, hforward⟩ := hreached.advances hreference hfaultless hstep
      have hbelow := (isComplete_eq_false_iff _).mp hshort
      rw [hforward.targetLength_eq]
      omega

theorem Underway.report (h : Underway fuel setup first count iteration world)
    (hcomplete : iteration.isComplete = true) :
    iteration.report.rollbacks = 0 ∧ iteration.report.tokens ≤ iteration.report.targetLength ∧
      iteration.report.targetLength ≤ iteration.report.finalLength := by
  obtain ⟨steps, hhistory, hcount⟩ := h.history
  obtain ⟨-, hrollbacks, -⟩ := hhistory.advanced hreference hfaultless
  have hbound := h.count_le hreference hfaultless
  have htokens := hhistory.recorded.tokens
  refine ⟨hrollbacks, ?_, of_decide_eq_true hcomplete⟩
  change iteration.tokens ≤ iteration.targetLength
  omega

-- Every step brings the query nearer to its target length, so the steps last unless one of them has
-- no result.
theorem Underway.complete_or_stuck {steps : Nat}
    (h : Underway fuel setup first count iteration world)
    (hsteps : iteration.targetLength - iteration.query.length < steps) :
    (∃ report after, Campaign.complete fuel setup steps iteration world = some (.ok report, after) ∧
      report.rollbacks = 0 ∧ report.tokens ≤ report.targetLength ∧
        report.targetLength ≤ report.finalLength) ∨
    ∃ later stuck place, Underway fuel setup first later stuck place ∧ stuck.isComplete = false ∧
      Campaign.step fuel setup stuck place = none := by
  induction steps generalizing count iteration world with
  | zero => exact absurd hsteps (Nat.not_lt_zero _)
  | succ steps ih =>
      unfold Campaign.complete
      cases hcomplete : iteration.isComplete with
      | true =>
          rw [if_pos rfl]
          exact .inl ⟨_, _, rfl, h.report hreference hfaultless hcomplete⟩
      | false =>
          rw [if_neg Bool.false_ne_true]
          cases hstep : Campaign.step fuel setup iteration world with
          | none => exact .inr ⟨_, _, _, h, hcomplete, hstep⟩
          | some taken =>
              obtain ⟨outcome, next, after⟩ := taken
              obtain ⟨taken, hhistory, -⟩ := h.history
              have hreached := reached_iff_history.mpr ⟨_, hhistory⟩
              obtain ⟨rfl, hforward⟩ := hreached.advances hreference hfaultless hstep
              have hbelow := (isComplete_eq_false_iff _).mp hcomplete
              have hlonger := hforward.length_lt
              refine ih (h.step hcomplete hstep) ?_
              rw [hforward.targetLength_eq]
              omega

end Reference

-- Where nothing that has odds happens and there are no block comments, the reference validator
-- rejects no candidate: every step keeps its token, and after as many steps as the target length
-- has cells the query is complete. So all the steps of a query come to an end with nothing dropped,
-- unless the draws of a free-form token do not.
theorem never_rolledBack (setup : Setup Unit)
    (hreference : setup.validator = .reference setup.generator.config.dialect .reject)
    (hfaultless : setup.generator.config.Faultless) :
    (∀ steps iteration, History σ setup steps iteration →
      (∀ taken ∈ steps, taken.outcome = .advanced) ∧ iteration.rollbacks = 0 ∧
        (iteration.targetLength ≤ steps.length → iteration.isComplete = true)) ∧
    ∀ (fuel : Nat) (first : World σ Unit), setup.maxLength ≤ fuel →
      (∃ report after, runIteration fuel setup first = some (.ok report, after) ∧
        report.rollbacks = 0 ∧ report.tokens ≤ report.targetLength ∧
          report.targetLength ≤ report.finalLength) ∨
      ∃ count iteration world, Underway fuel setup first count iteration world ∧
        iteration.isComplete = false ∧ step fuel setup iteration world = none ∧
        (setup.generator.choose world.source).1 = .other := by
  constructor
  · intro steps iteration h
    obtain ⟨hall, hrollbacks, hlength⟩ := h.advanced hreference hfaultless
    exact ⟨hall, hrollbacks, fun htarget => decide_eq_true (Nat.le_trans htarget hlength)⟩
  · intro fuel first hfuel
    have positive : 0 < setup.maxLength - 1 := Nat.sub_pos_of_lt setup.two_le_maxLength
    have hdrawn := (Source.below (setup.maxLength - 1) positive first.source).1.isLt
    have htarget : (begin setup first).1.targetLength < fuel := by
      change 1 + (Source.below (setup.maxLength - 1) positive first.source).1.val < fuel
      omega
    have hsteps := Nat.lt_of_le_of_lt (Nat.sub_le _ (begin setup first).1.query.length) htarget
    rcases Underway.begin.complete_or_stuck hreference hfaultless hsteps with hended | hstuck
    · exact .inl hended
    · obtain ⟨count, iteration, world, hunderway, hshort, hnone⟩ := hstuck
      exact .inr ⟨count, iteration, world, hunderway, hshort, hnone, choose_of_step_eq_none hnone⟩

-- A tainted truth value, and right after it a comment with a tainted quote in it.
theorem never_rolledBack_comment :
    let config : TokenConfig :=
      { TokenConfig.default with odds := .never, kinds := [.lineComment, .boolean] }
    let setup : Setup Unit := ⟨⟨config, by decide⟩, .reference ⟨false⟩ .reject, 8, by decide⟩
    let truth : Token := ⟨.uniform true ['T', 'R', 'U', 'E'], .accept⟩
    let comment : Token :=
      ⟨.uniform false ['-', '-'] ++ .uniform true ['\''] ++ .uniform false ['\r'], .accept⟩
    let steps : List Taken :=
      [⟨.boolean, truth, .ok (), .advanced⟩, ⟨.lineComment, comment, .ok (), .advanced⟩]
    let iteration : Iteration :=
      ⟨truth.text ++ comment.text, [.token .boolean, .token .lineComment], 6, 2, 0⟩
    setup.validator = .reference setup.generator.config.dialect .reject ∧ config.Faultless ∧
      History (List Nat) setup steps iteration ∧ iteration.rollbacks = 0 ∧
      ∃ report after, runIteration 8 setup
          ⟨[5, 1, 1, 1, 1, 1, 1, 1, 0, 0, 1, 1, 63, 1], (), .none⟩ = some (.ok report, after) ∧
        report.rollbacks = 0 := by
  intro config setup truth comment steps iteration
  have hreference : setup.validator = .reference setup.generator.config.dialect .reject := rfl
  have hfaultless : config.Faultless := ⟨rfl, by decide⟩
  have hbegin : History (List Nat) setup [] (.start 6) := .begin ⟨[5], (), .none⟩
  have htruth : History (List Nat) setup (steps.take 1)
      ⟨truth.text, [.token .boolean], 6, 1, 0⟩ :=
    .step 0 ⟨[1, 1, 1, 1, 1, 1, 1], (), .none⟩ hbegin rfl rfl
  have hcomment : History (List Nat) setup steps iteration :=
    .step 0 ⟨[0, 0, 1, 1, 63, 1], (), .none⟩ htruth rfl rfl
  obtain ⟨hsteps, hruns⟩ := never_rolledBack (σ := List Nat) setup hreference hfaultless
  refine ⟨hreference, hfaultless, hcomment, (hsteps _ _ hcomment).2.1, ?_⟩
  rcases hruns 8 ⟨[5, 1, 1, 1, 1, 1, 1, 1, 0, 0, 1, 1, 63, 1], (), .none⟩ (Nat.le_refl 8) with
    ⟨report, after, hrun, hrollbacks, -⟩ | ⟨count, stuck, world, -, -, -, hkind⟩
  · exact ⟨report, after, hrun, hrollbacks⟩
  · have hmem := setup.generator.choose_mem world.source
    rw [hkind] at hmem
    exact absurd hmem (by decide)

end Campaign

end QueryTaint
