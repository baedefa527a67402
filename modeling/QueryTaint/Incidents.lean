namespace QueryTaint

inductive IncidentKind where
  -- A query could not be read to its end.
  | error
  -- Something suspicious was let pass.
  | warning
  -- A violation was noted instead of reported.
  | vuln
  deriving DecidableEq

inductive Severity where
  | error
  | warning
  deriving DecidableEq

namespace IncidentKind

def severity : IncidentKind → Severity
  | error | vuln => .error
  | warning => .warning

def ofName? : String → Option IncidentKind
  | "error" => some error
  | "warning" => some warning
  | "vuln" => some vuln
  | _ => none

end IncidentKind

def Severity.name : Severity → String
  | error => "ERROR"
  | warning => "WARN"

-- The counters wrap, as words of 64 bits do.
structure Incidents where
  errors : UInt64
  warnings : UInt64
  vulns : UInt64
  deriving DecidableEq

namespace Incidents

def none : Incidents := ⟨0, 0, 0⟩

def record (incidents : Incidents) : IncidentKind → Incidents
  | .error => { incidents with errors := incidents.errors + 1 }
  | .warning => { incidents with warnings := incidents.warnings + 1 }
  | .vuln => { incidents with vulns := incidents.vulns + 1 }

def clearWarnings (incidents : Incidents) : Incidents := { incidents with warnings := 0 }

def count (incidents : Incidents) : IncidentKind → UInt64
  | .error => incidents.errors
  | .warning => incidents.warnings
  | .vuln => incidents.vulns

def has (incidents : Incidents) (kind : IncidentKind) : Bool := incidents.count kind ≠ 0

def isClean (incidents : Incidents) : Bool := incidents = none

end Incidents

end QueryTaint
