import QueryTaint.Validator
import Mathlib.Data.List.Forall2

namespace QueryTaint

namespace Verdict

def isViolation : Verdict → Bool
  | .error (.violation _) => true
  | _ => false

def isMalformed : Verdict → Bool
  | .error (.malformed ..) => true
  | _ => false

end Verdict

-- The counters between two states. They are words, so the sums are modulo their size.
structure Counted (first : Incidents) (errors warnings vulns : Nat) (last : Incidents) : Prop where
  errors : last.errors = first.errors + .ofNat errors
  warnings : last.warnings = first.warnings + .ofNat warnings
  vulns : last.vulns = first.vulns + .ofNat vulns

namespace Counted

variable {first middle last : Incidents} {errors warnings vulns errors' warnings' vulns' : Nat}

theorem refl (incidents : Incidents) : Counted incidents 0 0 0 incidents :=
  ⟨(UInt64.add_zero _).symm, (UInt64.add_zero _).symm, (UInt64.add_zero _).symm⟩

theorem trans (h : Counted first errors warnings vulns middle)
    (h' : Counted middle errors' warnings' vulns' last) :
    Counted first (errors + errors') (warnings + warnings') (vulns + vulns') last where
  errors := by rw [h'.errors, h.errors, UInt64.ofNat_add, UInt64.add_assoc]
  warnings := by rw [h'.warnings, h.warnings, UInt64.ofNat_add, UInt64.add_assoc]
  vulns := by rw [h'.vulns, h.vulns, UInt64.ofNat_add, UInt64.add_assoc]

theorem record (incidents : Incidents) (kind : IncidentKind) :
    Counted incidents (if kind = .error then 1 else 0) (if kind = .warning then 1 else 0)
      (if kind = .vuln then 1 else 0) (incidents.record kind) := by
  cases kind with
  | error => exact ⟨rfl, (UInt64.add_zero _).symm, (UInt64.add_zero _).symm⟩
  | warning => exact ⟨(UInt64.add_zero _).symm, rfl, (UInt64.add_zero _).symm⟩
  | vuln => exact ⟨(UInt64.add_zero _).symm, (UInt64.add_zero _).symm, rfl⟩

end Counted

namespace Policy

-- What a policy makes of the verdict of the scanner.
def verdict (policy : Policy) (found : Verdict) : Verdict :=
  (policy.settle .none found).1

-- Whether a policy counts a verdict of the scanner as an accepted violation.
def accepts (policy : Policy) (found : Verdict) : Bool := policy = .logOnly && found.isViolation

theorem settle_fst (policy : Policy) (incidents : Incidents) (found : Verdict) :
    (policy.settle incidents found).1 = policy.verdict found := by
  rcases found with (_ | _) | _
  · cases policy <;> rfl
  · rfl
  · rfl

@[simp] theorem verdict_reject (found : Verdict) : reject.verdict found = found := by
  rcases found with (_ | _) | _ <;> rfl

@[simp] theorem isMalformed_verdict (policy : Policy) (found : Verdict) :
    (policy.verdict found).isMalformed = found.isMalformed := by
  rcases found with (_ | _) | _ <;> cases policy <;> rfl

@[simp] theorem accepts_reject (found : Verdict) : reject.accepts found = false := rfl

@[simp] theorem accepts_logOnly (found : Verdict) : logOnly.accepts found = found.isViolation := rfl

theorem counted_settle (policy : Policy) (incidents : Incidents) (found : Verdict) :
    Counted incidents (if found.isMalformed then 1 else 0) 0 (if policy.accepts found then 1 else 0)
      (policy.settle incidents found).2 := by
  rcases found with (_ | _) | _
  · cases policy with
    | reject => exact .refl incidents
    | logOnly => exact .record incidents .vuln
  · have h := Counted.record incidents .error
    cases policy <;> exact h
  · cases policy <;> exact .refl incidents

end Policy

theorem validate_fst (dialect : Dialect) (policy : Policy) (query : Text) (incidents : Incidents) :
    (validate dialect policy query incidents).1 = policy.verdict (check dialect query) :=
  policy.settle_fst ..

-- A query with a null character may be malformed or an accepted violation as well.
theorem counted_validate (dialect : Dialect) (policy : Policy) (query : Text)
    (incidents : Incidents) :
    Counted incidents (if (check dialect query).isMalformed then 1 else 0)
      (if query.contains '\x00' then 1 else 0)
      (if policy.accepts (check dialect query) then 1 else 0)
      (validate dialect policy query incidents).2 := by
  have hsettled (incidents) := policy.counted_settle incidents (check dialect query)
  unfold validate
  cases query.contains '\x00' with
  | false => exact hsettled incidents
  | true =>
    have hwarned := (Counted.record incidents .warning).trans (hsettled (incidents.record .warning))
    simpa using hwarned

-- What the policy that only takes note makes of the verdict of the one that rejects.
structure Relaxed (rejected noted : Verdict) : Prop where
  accepted_iff : noted = .ok () ↔ rejected = .ok () ∨ ∃ found, rejected = .error (.violation found)
  malformed_iff (construct : String) (offset : Nat) :
    noted = .error (.malformed construct offset) ↔ rejected = .error (.malformed construct offset)
  not_violation (found : Violation) : noted ≠ .error (.violation found)

theorem relaxed_verdict (found : Verdict) : Relaxed found (Policy.logOnly.verdict found) := by
  rcases found with (violation | ⟨construct, offset⟩) | _
  · have hnoted : Policy.logOnly.verdict (.error (.violation violation)) = .ok () := rfl
    exact ⟨by simp [hnoted], by simp [hnoted], by simp [hnoted]⟩
  · have hnoted : Policy.logOnly.verdict (.error (.malformed construct offset)) =
        .error (.malformed construct offset) := rfl
    exact ⟨by simp [hnoted], by simp [hnoted], by simp [hnoted]⟩
  · have hnoted : Policy.logOnly.verdict (.ok ()) = .ok () := rfl
    exact ⟨by simp [hnoted], by simp [hnoted], by simp [hnoted]⟩

namespace Validator

-- Queries in their order, each with what the ones before it have left behind.
def judgeAll {μ : Type} (validator : Validator μ) :
    List Text → μ → Incidents → List Verdict × μ × Incidents
  | [], memory, incidents => ([], memory, incidents)
  | query :: rest, memory, incidents =>
    let (verdict, memory, incidents) := validator.judge query memory incidents
    let (verdicts, memory, incidents) := validator.judgeAll rest memory incidents
    (verdict :: verdicts, memory, incidents)

section Reference

variable (dialect : Dialect) (policy : Policy) (queries : List Text) (incidents : Incidents)

theorem verdicts_judgeAll :
    ((reference dialect policy).judgeAll queries () incidents).1 =
      queries.map fun query => policy.verdict (check dialect query) := by
  induction queries generalizing incidents with
  | nil => rfl
  | cons query rest ih =>
    simp only [judgeAll, reference, List.map_cons] at ih ⊢
    rw [ih, validate_fst]

theorem counted_judgeAll :
    Counted incidents (queries.countP fun query => (check dialect query).isMalformed)
      (queries.countP (·.contains '\x00'))
      (queries.countP fun query => policy.accepts (check dialect query))
      ((reference dialect policy).judgeAll queries () incidents).2.2 := by
  induction queries generalizing incidents with
  | nil => exact .refl incidents
  | cons query rest ih =>
    have h := (counted_validate dialect policy query incidents).trans
      (ih (validate dialect policy query incidents).2)
    simpa only [judgeAll, reference, List.countP_cons, Nat.add_comm] using h

end Reference

-- The same queries under both policies, with any counters to begin with. Malformed queries and null
-- characters are counted alike, and a violation is reported by the one policy and counted by the
-- other, which accepts it. No query has a say in what is made of another.
theorem judgeAll_policies (dialect : Dialect) (queries : List Text) (first first' : Incidents) :
    let rejecting := (reference dialect .reject).judgeAll queries () first
    let noting := (reference dialect .logOnly).judgeAll queries () first'
    let nulls := queries.countP (·.contains '\x00')
    Counted first (rejecting.1.countP Verdict.isMalformed) nulls 0 rejecting.2.2 ∧
      Counted first' (noting.1.countP Verdict.isMalformed) nulls
        (rejecting.1.countP Verdict.isViolation) noting.2.2 ∧
      List.Forall₂ Relaxed rejecting.1 noting.1 ∧
      rejecting.1 = (queries.map fun query => (validate dialect .reject query .none).1) ∧
      noting.1 = queries.map fun query => (validate dialect .logOnly query .none).1 := by
  intro rejecting noting nulls
  have hrejecting : rejecting.1 = queries.map fun query => check dialect query := by
    simpa using verdicts_judgeAll dialect .reject queries first
  have hnoting : noting.1 = queries.map fun query => Policy.logOnly.verdict (check dialect query) :=
    verdicts_judgeAll dialect .logOnly queries first'
  have hcounted := counted_judgeAll dialect .reject queries first
  have hcounted' := counted_judgeAll dialect .logOnly queries first'
  rw [hrejecting, hnoting]
  refine ⟨?_, ?_, ?_, ?_, ?_⟩
  · simpa [List.countP_map, Function.comp_def] using hcounted
  · simpa [List.countP_map, Function.comp_def] using hcounted'
  · simp only [List.forall₂_map_left_iff, List.forall₂_map_right_iff, List.forall₂_same]
    exact fun query _ => relaxed_verdict (check dialect query)
  · simp only [validate_fst, Policy.verdict_reject]
  · simp only [validate_fst]

-- One query can count twice: a null character in a literal without an end.
example : (validate ⟨false⟩ .logOnly (.uniform false ['\'', '\x00']) .none) =
    (.error (.malformed "string literal" 0), ⟨1, 1, 0⟩) := rfl

end Validator

end QueryTaint
