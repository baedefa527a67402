import QueryTaint.Campaign.Report
import QueryTaint.Token.Generator
import QueryTaint.Validator

namespace QueryTaint.Campaign

-- What does not change while queries are grown; `μ` is the memory of the validator.
structure Setup (μ : Type) where
  generator : Generator
  validator : Validator μ
  maxLength : Nat
  two_le_maxLength : 2 ≤ maxLength

def Setup.of {μ : Type} (config : TokenConfig) (validator : Validator μ) (maxLength : Nat) :
    Except ConfigError (Setup μ) := do
  let generator ← Generator.ofConfig config
  if h : 2 ≤ maxLength then .ok ⟨generator, validator, maxLength, h⟩
  else .error (.maxLengthTooSmall maxLength)

-- What changes from one query to the next.
structure World (σ μ : Type) where
  source : σ
  memory : μ
  incidents : Incidents

structure Iteration where
  query : Text
  operations : List Operation
  targetLength : Nat
  tokens : Nat
  rollbacks : Nat

structure IterationReport where
  targetLength : Nat
  finalLength : Nat
  tokens : Nat
  rollbacks : Nat
  deriving DecidableEq

inductive Outcome where
  | advanced
  | rolledBack
  | mismatch (report : Report)
  deriving DecidableEq

-- What an expectation and a verdict come to.
inductive Settlement where
  | keep
  | drop
  | disagree (reason : Reason)
  deriving DecidableEq

def settle : Expectation → Verdict → Settlement
  | .accept, .ok () => .keep
  | .violation cause, .ok () => .disagree (.missedViolation cause)
  | .accept, .error (.violation found) => .disagree (.unexpectedViolation found)
  | .violation _, .error (.violation _) => .drop
  | _, .error (.malformed construct offset) =>
    .disagree (.validatorFailure (.malformed construct offset))

namespace Iteration

def start (targetLength : Nat) : Iteration := ⟨[], [], targetLength, 0, 0⟩

def isComplete (iteration : Iteration) : Bool := iteration.targetLength ≤ iteration.query.length

def report (iteration : Iteration) : IterationReport :=
  ⟨iteration.targetLength, iteration.query.length, iteration.tokens, iteration.rollbacks⟩

-- Notes a token that has been generated.
def note (iteration : Iteration) (kind : TokenKind) : Iteration :=
  { iteration with
    operations := iteration.operations ++ [.token kind]
    tokens := iteration.tokens + 1 }

def apply (iteration : Iteration) (candidate : Text) : Settlement → Outcome × Iteration
  | .keep => (.advanced, { iteration with query := candidate })
  | .drop =>
    (.rolledBack,
      { iteration with
        operations := iteration.operations ++ [.exception]
        rollbacks := iteration.rollbacks + 1 })
  | .disagree reason => (.mismatch ⟨candidate, iteration.operations, reason⟩, iteration)

end Iteration

variable {σ μ : Type} [Source σ]

-- Starts a query with a target length of at least one and below the maximum.
def begin (setup : Setup μ) (world : World σ μ) : Iteration × World σ μ :=
  have positive : 0 < setup.maxLength - 1 := Nat.sub_pos_of_lt setup.two_le_maxLength
  let (length, source) := Source.below (setup.maxLength - 1) positive world.source
  (.start (1 + length), { world with source })

-- Has a candidate judged. Null characters are drawn on purpose, so warnings of them are forgotten.
def judge (setup : Setup μ) (candidate : Text) (world : World σ μ) : Verdict × World σ μ :=
  let (verdict, memory, incidents) := setup.validator.judge candidate world.memory world.incidents
  let incidents := if candidate.contains '\x00' then incidents.clearWarnings else incidents
  (verdict, { world with memory, incidents })

-- Has no result if the fuel does not last for the token.
def step (fuel : Nat) (setup : Setup μ) (iteration : Iteration) (world : World σ μ) :
    Option (Outcome × Iteration × World σ μ) := do
  let ((kind, token), source) ← setup.generator.generate fuel iteration.query world.source
  let candidate := iteration.query ++ token.text
  let (verdict, world) := judge setup candidate { world with source }
  let (outcome, iteration) :=
    (iteration.note kind).apply candidate (settle token.expectation verdict)
  some (outcome, iteration, world)

-- Steps until the query is complete or a disagreement comes up.
def complete (fuel : Nat) (setup : Setup μ) :
    Nat → Iteration → World σ μ → Option (Except Report IterationReport × World σ μ)
  | 0, _, _ => none
  | steps + 1, iteration, world =>
    if iteration.isComplete then some (.ok iteration.report, world)
    else
      match step fuel setup iteration world with
      | none => none
      | some (.mismatch report, _, world) => some (.error report, world)
      | some (_, iteration, world) => complete fuel setup steps iteration world

-- Grows one query. Has no result if the fuel does not last for a token or for all the steps.
def runIteration (fuel : Nat) (setup : Setup μ) (world : World σ μ) :
    Option (Except Report IterationReport × World σ μ) :=
  let (iteration, world) := begin setup world
  complete fuel setup fuel iteration world

-- Grows up to `count` more queries one after another, after those that are `done`, latest first. A
-- disagreement ends it.
def runAfter (fuel : Nat) (setup : Setup μ) (done : List IterationReport) :
    Nat → World σ μ → Option (List IterationReport × Option Report × World σ μ)
  | 0, world => some (done.reverse, none, world)
  | count + 1, world =>
    match runIteration fuel setup world with
    | none => none
    | some (.error report, world) => some (done.reverse, some report, world)
    | some (.ok last, world) => runAfter fuel setup (last :: done) count world

def run (fuel : Nat) (setup : Setup μ) (count : Nat) (world : World σ μ) :
    Option (List IterationReport × Option Report × World σ μ) :=
  runAfter fuel setup [] count world

end QueryTaint.Campaign
