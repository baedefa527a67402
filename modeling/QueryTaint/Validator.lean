import QueryTaint.Scan
import QueryTaint.Incidents

namespace QueryTaint

-- A judge with a memory of type `μ`.
structure Validator (μ : Type) where
  judge : Text → μ → Incidents → Verdict × μ × Incidents

-- What becomes of a violation.
inductive Policy where
  | reject
  -- It is recorded and the query passes.
  | logOnly
  deriving DecidableEq

namespace Policy

def settle (policy : Policy) (incidents : Incidents) : Verdict → Verdict × Incidents
  | .ok () => (.ok (), incidents)
  | .error (.violation found) =>
    match policy with
    | reject => (.error (.violation found), incidents)
    | logOnly => (.ok (), incidents.record .vuln)
  | .error (.malformed construct offset) =>
    (.error (.malformed construct offset), incidents.record .error)

end Policy

-- A null character is worth a warning wherever it stands and whatever the verdict is.
def validate (dialect : Dialect) (policy : Policy) (query : Text) (incidents : Incidents) :
    Verdict × Incidents :=
  let incidents := if query.contains '\x00' then incidents.record .warning else incidents
  policy.settle incidents (check dialect query)

-- Incidents have no say in the verdict.
theorem validate_reject (dialect : Dialect) (query : Text) (incidents : Incidents) :
    (validate dialect .reject query incidents).1 = check dialect query := by
  unfold validate Policy.settle
  cases check dialect query with
  | ok _ => rfl
  | error rejection => cases rejection <;> rfl

namespace Validator

def reference (dialect : Dialect) (policy : Policy) : Validator Unit where
  judge query _ incidents :=
    let (verdict, incidents) := validate dialect policy query incidents
    (verdict, (), incidents)

-- One answer of a script: a fixed verdict, or the word of another validator.
inductive Line where
  | fixed (verdict : Verdict)
  | ask

-- Answers line by line; the last line is said again and again. A fixed verdict leaves no trace in
-- the incidents, and an empty script always asks.
def scripted {μ : Type} (validator : Validator μ) : Validator (List Line × μ) where
  judge query memory incidents :=
    let (script, inner) := memory
    let following := match script with
      | _ :: line :: rest => line :: rest
      | script => script
    match script with
    | .fixed verdict :: _ => (verdict, (following, inner), incidents)
    | _ =>
      let (verdict, inner, incidents) := validator.judge query inner incidents
      (verdict, (following, inner), incidents)

end Validator

end QueryTaint
