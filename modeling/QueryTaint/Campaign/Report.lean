import QueryTaint.Text.Taint
import QueryTaint.Rejection
import QueryTaint.Token.Basic

namespace QueryTaint.Campaign

-- An entry of the operation log.
inductive Operation where
  | token (kind : TokenKind)
  -- The token before it was dropped after the violation that it was meant to cause.
  | exception
  deriving DecidableEq

def Operation.name : Operation → String
  | token kind => kind.name
  | exception => "Exception"

inductive Reason where
  -- A violation was expected and the query passed.
  | missedViolation (cause : String)
  -- The query was expected to pass.
  | unexpectedViolation (violation : Violation)
  -- The validator failed for another reason than a violation.
  | validatorFailure (rejection : Rejection)
  deriving DecidableEq

def Reason.message : Reason → String
  | missedViolation cause => "FAILURE: did not get exception (expected " ++ cause ++ ")"
  | unexpectedViolation violation => "FAILURE " ++ (Rejection.violation violation).message
  | validatorFailure rejection => "FAILURE " ++ rejection.message

structure Report where
  -- The query with the token that brought the disagreement.
  query : Text
  operations : List Operation
  reason : Reason
  deriving DecidableEq

namespace Report

def operationLines (operations : List Operation) : List String :=
  operations.zipIdx.map fun (operation, index) =>
    "op " ++ toString index ++ ": " ++ operation.name ++ "\n"

def dump (report : Report) : String :=
  "FAILURE-- query: " ++ report.query.string ++ "\n" ++
    ("Taint " ++ report.query.taintSet ++ "\n") ++
    String.join (operationLines report.operations) ++ report.reason.message

def message (report : Report) : String := "Oracle mismatch: " ++ report.reason.message

end Report

end QueryTaint.Campaign
