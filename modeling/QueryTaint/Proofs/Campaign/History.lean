import QueryTaint.Proofs.Campaign.Oracle

namespace QueryTaint.Campaign

-- A step that was taken: the token that was drawn, the verdict on the query with the token, and
-- what the step came to.
structure Taken where
  kind : TokenKind
  token : Token
  verdict : Verdict
  outcome : Outcome

namespace Taken

-- What the step writes into the operation log.
def operations (taken : Taken) : List Operation :=
  .token taken.kind :: if taken.outcome = .rolledBack then [.exception] else []

-- The steps that kept their tokens.
def kept (steps : List Taken) : List Taken := steps.filter (·.outcome = .advanced)

theorem kept_concat (steps : List Taken) (taken : Taken) :
    kept (steps ++ [taken]) =
      kept steps ++ if taken.outcome = .advanced then [taken] else [] := by
  unfold kept
  rw [List.filter_append]
  by_cases houtcome : taken.outcome = .advanced <;> simp [houtcome]

end Taken

variable {σ μ : Type} [Source σ]

variable (σ) in
-- The steps since the query was begun, earliest first, and what has become of the query. A step may
-- find the world in any state, so a validator with a memory may give its verdicts in any order.
inductive History (setup : Setup μ) : List Taken → Iteration → Prop where
  | begin (world : World σ μ) : History setup [] (begin setup world).1
  | step (fuel : Nat) (world : World σ μ) {steps : List Taken} {iteration next : Iteration}
    {kind : TokenKind} {token : Token} {source : σ} {outcome : Outcome} {after : World σ μ} :
    History setup steps iteration →
    setup.generator.generate fuel iteration.query world.source = some ((kind, token), source) →
    step fuel setup iteration world = some (outcome, next, after) →
      History setup (steps ++ [⟨kind, token,
        (judge setup (iteration.query ++ token.text) { world with source }).1, outcome⟩]) next

variable {setup : Setup μ} {steps : List Taken} {iteration : Iteration}

theorem reached_iff_history :
    Reached σ setup iteration ↔ ∃ steps, History σ setup steps iteration := by
  constructor
  · intro h
    induction h with
    | begin world => exact ⟨[], .begin world⟩
    | step _ hstep ih =>
        obtain ⟨steps, hhistory⟩ := ih
        obtain ⟨kind, token, source, hgenerated, -⟩ := step_cases hstep
        exact ⟨_, .step _ _ hhistory hgenerated hstep⟩
  · rintro ⟨steps, h⟩
    induction h with
    | begin world => exact .begin world
    | step _ _ _ _ hstep ih => exact .step ih hstep

-- What the steps say of the query.
structure Recorded (setup : Setup μ) (steps : List Taken) (iteration : Iteration) : Prop where
  query : iteration.query = (Taken.kept steps).flatMap (·.token.text)
  operations : iteration.operations = steps.flatMap Taken.operations
  kinds : ∀ taken ∈ steps, taken.kind ∈ setup.generator.config.kinds
  tokens : iteration.tokens = steps.length
  rollbacks : iteration.rollbacks = iteration.operations.count .exception

theorem recorded_start (targetLength : Nat) : Recorded setup [] (.start targetLength) :=
  ⟨rfl, rfl, by simp, rfl, rfl⟩

-- A token that is noted, judged and kept or not is one step more.
theorem Recorded.apply {next : Iteration} {kind : TokenKind} {token : Token} {verdict : Verdict}
    {outcome : Outcome} (h : Recorded setup steps iteration)
    (hkind : kind ∈ setup.generator.config.kinds)
    (happly : (outcome, next) = (iteration.note kind).apply (iteration.query ++ token.text)
      (settle token.expectation verdict)) :
    Recorded setup (steps ++ [⟨kind, token, verdict, outcome⟩]) next := by
  have hoperations : next.operations = iteration.operations ++
      .token kind :: if outcome = .rolledBack then [.exception] else [] := by
    rw [operations_apply happly]
    exact List.append_assoc ..
  constructor
  · rw [query_apply happly, Taken.kept_concat, List.flatMap_append, ← h.query]
    split
    · rw [List.flatMap_singleton]
    · rw [List.flatMap_nil, List.append_nil]
      rfl
  · rw [hoperations, List.flatMap_append, ← h.operations, List.flatMap_singleton]
    rfl
  · intro taken htaken
    rcases List.mem_append.mp htaken with htaken | htaken
    · exact h.kinds taken htaken
    · obtain rfl := List.mem_singleton.mp htaken
      exact hkind
  · rw [tokens_apply happly, List.length_append, ← h.tokens]
    rfl
  · have hrollbacks : (iteration.note kind).rollbacks = iteration.operations.count .exception :=
      h.rollbacks
    rw [rollbacks_apply happly, hoperations, hrollbacks, List.count_append]
    split <;> rfl

theorem History.recorded (h : History σ setup steps iteration) :
    Recorded setup steps iteration := by
  induction h with
  | begin world => exact recorded_start _
  | step _ _ _ hgenerated hstep ih =>
      have hkind := setup.generator.kind_mem _ _ _ _ _ hgenerated
      exact ih.apply hkind (apply_of_step hgenerated hstep)

-- The reason of a disagreement.
def Outcome.reason? : Outcome → Option Reason
  | .advanced | .rolledBack => none
  | .mismatch report => some report.reason

theorem reason_apply {next : Iteration} {candidate : Text} {settlement : Settlement}
    {outcome : Outcome} (h : (outcome, next) = iteration.apply candidate settlement)
    (reason : Reason) : outcome.reason? = some reason ↔ settlement = .disagree reason := by
  cases settlement <;> cases h <;> simp [Outcome.reason?]

section Reasons

variable (expectation : Expectation) (verdict : Verdict)

theorem missedViolation_iff (cause : String) :
    settle expectation verdict = .disagree (.missedViolation cause) ↔
      expectation = .violation cause ∧ verdict = .ok () := by
  rcases verdict with (found | ⟨construct, offset⟩) | _ <;> cases expectation <;> simp [settle]

theorem unexpectedViolation_iff (found : Violation) :
    settle expectation verdict = .disagree (.unexpectedViolation found) ↔
      expectation = .accept ∧ verdict = .error (.violation found) := by
  rcases verdict with (other | ⟨construct, offset⟩) | _ <;> cases expectation <;> simp [settle]

theorem validatorFailure_iff (construct : String) (offset : Nat) :
    settle expectation verdict = .disagree (.validatorFailure (.malformed construct offset)) ↔
      verdict = .error (.malformed construct offset) := by
  rcases verdict with (found | ⟨other, place⟩) | _ <;> cases expectation <;> simp [settle]

-- A violation is never reported as another failure.
theorem not_validatorFailure_violation (found : Violation) :
    settle expectation verdict ≠ .disagree (.validatorFailure (.violation found)) := by
  rcases verdict with (other | ⟨construct, offset⟩) | _ <;> cases expectation <;> simp [settle]

end Reasons

-- What a step with the token makes of the iteration, and what it reports.
structure Reconciled (iteration : Iteration) (taken : Taken) (next : Iteration) : Prop where
  targetLength : next.targetLength = iteration.targetLength
  unmoved : taken.outcome ≠ .advanced → next.query = iteration.query
  reported : ∀ report, taken.outcome = .mismatch report →
    report.query = iteration.query ++ taken.token.text ∧
      report.operations = iteration.operations ++ [.token taken.kind] ∧
      next.operations = report.operations
  missed : ∀ cause, taken.outcome.reason? = some (.missedViolation cause) ↔
    taken.token.expectation = .violation cause ∧ taken.verdict = .ok ()
  unexpected : ∀ found, taken.outcome.reason? = some (.unexpectedViolation found) ↔
    taken.token.expectation = .accept ∧ taken.verdict = .error (.violation found)
  failed : ∀ rejection, taken.outcome.reason? = some (.validatorFailure rejection) ↔
    (∃ construct offset, rejection = .malformed construct offset) ∧
      taken.verdict = .error rejection

theorem reconciled_of_apply {next : Iteration} {taken : Taken}
    (h : (taken.outcome, next) = (iteration.note taken.kind).apply
      (iteration.query ++ taken.token.text) (settle taken.token.expectation taken.verdict)) :
    Reconciled iteration taken next := by
  constructor
  · rw [targetLength_apply h]
    rfl
  · intro houtcome
    rw [query_apply h, if_neg houtcome]
    rfl
  · intro report houtcome
    rw [houtcome] at h
    obtain ⟨hquery, hoperations, hnext⟩ := report_apply h
    exact ⟨hquery, hoperations, by rw [hnext, hoperations]⟩
  · intro cause
    rw [reason_apply h, missedViolation_iff]
  · intro found
    rw [reason_apply h, unexpectedViolation_iff]
  · intro rejection
    rw [reason_apply h]
    cases rejection with
    | violation found => simp [not_validatorFailure_violation]
    | malformed construct offset => simp [validatorFailure_iff]

-- The books of an iteration are in order after any number of steps, and the next step, whatever
-- token it draws, keeps them so and reports a disagreement as it is.
theorem bookkeeping (setup : Setup μ) {steps : List Taken} {iteration : Iteration}
    (h : History σ setup steps iteration) :
    Recorded setup steps iteration ∧
      ∀ (fuel : Nat) (world : World σ μ) (kind : TokenKind) (token : Token) (source : σ),
        setup.generator.generate fuel iteration.query world.source =
          some ((kind, token), source) →
        let verdict := (judge setup (iteration.query ++ token.text) { world with source }).1
        ∃ outcome next after,
          step fuel setup iteration world = some (outcome, next, after) ∧
          Recorded setup (steps ++ [⟨kind, token, verdict, outcome⟩]) next ∧
          Reconciled iteration ⟨kind, token, verdict, outcome⟩ next := by
  refine ⟨h.recorded, ?_⟩
  intro fuel world kind token source hgenerated verdict
  have hstep := step_of_generate hgenerated
  refine ⟨_, _, _, hstep, ?_, ?_⟩
  · exact (History.step fuel world h hgenerated hstep).recorded
  · exact reconciled_of_apply (apply_of_step hgenerated hstep)

-- A truth value is kept; after it a number without a separator is dropped when the violation is
-- seen, and is a disagreement when the validator is made to say something else.
theorem bookkeeping_scripted :
    let setup : Setup (List Validator.Line × Unit) :=
      ⟨⟨.default, by decide⟩, .scripted (.reference ⟨false⟩ .reject), 2, by decide⟩
    let query : Text := .uniform true ['T', 'R', 'U', 'E']
    let token : Token := ⟨.uniform true ['7'] ++ .uniform false [' '],
      .violation "unseparated tainted value"⟩
    let missed : Report := ⟨query ++ token.text,
      [.token .boolean, .token .number, .exception, .token .number],
      .missedViolation "unseparated tainted value"⟩
    let steps : List Taken :=
      [⟨.boolean, ⟨query, .accept⟩, .ok (), .advanced⟩,
        ⟨.number, token, .error (.violation ⟨.invalidValue, 0⟩), .rolledBack⟩,
        ⟨.number, token, .ok (), .mismatch missed⟩]
    let iteration : Iteration := ⟨query, missed.operations, 1, 3, 1⟩
    let malformed : Rejection := .malformed "string literal" 0
    let world : List Validator.Line → World (List Nat) (List Validator.Line × Unit) :=
      fun script => ⟨[2, 0, 1, 0, 0, 1, 7], (script, ()), .none⟩
    History (List Nat) setup steps iteration ∧
      setup.generator.generate 0 query (world []).source = some ((.number, token), []) ∧
      Recorded setup steps iteration ∧
      ∃ outcome next after,
        step 0 setup iteration (world [.fixed (.error malformed)]) = some (outcome, next, after) ∧
        next.query = query ∧ outcome.reason? = some (.validatorFailure malformed) := by
  intro setup query token missed steps iteration malformed world
  have hbegin : History (List Nat) setup [] (.start 1) := .begin ⟨[0], ([], ()), .none⟩
  have hkept : History (List Nat) setup (steps.take 1) ⟨query, [.token .boolean], 1, 1, 0⟩ :=
    .step 0 ⟨[6, 1, 1, 1, 1, 1, 1, 1, 1, 1, 1], ([], ()), .none⟩ hbegin rfl rfl
  have hdropped : History (List Nat) setup (steps.take 2)
      ⟨query, [.token .boolean, .token .number, .exception], 1, 2, 1⟩ :=
    .step 0 (world []) hkept rfl rfl
  have hmissed : History (List Nat) setup steps iteration :=
    .step 0 (world [.fixed (.ok ())]) hdropped rfl rfl
  have hgenerated : setup.generator.generate 0 query (world []).source =
      some ((.number, token), ([] : List Nat)) := rfl
  obtain ⟨hrecorded, hnext⟩ := bookkeeping setup hmissed
  obtain ⟨outcome, next, after, hstep, -, hreconciled⟩ :=
    hnext 0 (world [.fixed (.error malformed)]) .number token [] hgenerated
  have hreason : outcome.reason? = some (.validatorFailure malformed) :=
    (hreconciled.failed malformed).mpr ⟨⟨_, _, rfl⟩, rfl⟩
  refine ⟨hmissed, hgenerated, hrecorded, outcome, next, after, hstep, ?_, hreason⟩
  apply hreconciled.unmoved
  intro hadvanced
  have houtcome : outcome = .advanced := hadvanced
  rw [houtcome] at hreason
  cases hreason

end QueryTaint.Campaign
