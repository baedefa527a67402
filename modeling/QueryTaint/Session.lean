import QueryTaint.Campaign.Iteration
import QueryTaint.Random.Keystream
import QueryTaint.Settings
import QueryTaint.Disk

namespace QueryTaint

structure Parameters where
  seed : Int
  maxLength : Nat
  iterations : Nat
  logFile : String
  deriving DecidableEq

-- The arguments that repeat the run.
def Parameters.logLine (parameters : Parameters) : String :=
  "-s " ++ toString parameters.seed ++ " -l " ++ toString parameters.maxLength ++ " -n " ++
    toString parameters.iterations ++ " -f " ++ parameters.logFile ++ "\n"

-- The seed as a word of 64 bits, a negative one by its complement.
def Parameters.seedWord (parameters : Parameters) : UInt64 :=
  UInt64.ofNat (parameters.seed % 0x10000000000000000).toNat

structure Summary where
  seed : Int
  maxLength : Nat
  iterations : Nat
  tokens : Nat
  rollbacks : Nat
  incidents : Incidents
  deriving DecidableEq

namespace Summary

def object (fields : List (String × String)) : String :=
  let members := fields.map fun (name, value) => "\"" ++ name ++ "\":" ++ value
  "\x7b" ++ ",".intercalate members ++ "\x7d"

def json (summary : Summary) : String :=
  object
    [("seed", toString summary.seed), ("max_len", toString summary.maxLength),
      ("iterations", toString summary.iterations), ("tokens", toString summary.tokens),
      ("rollbacks", toString summary.rollbacks),
      ("incidents", object
        [("errors", toString summary.incidents.errors),
          ("warnings", toString summary.incidents.warnings),
          ("vulns", toString summary.incidents.vulns)])]

end Summary

inductive RunError where
  | logFile (path : String) (cause : DiskError)
  | logWrite (path : String) (cause : DiskError)
  | mismatch (report : Campaign.Report)
  | incidents (counts : Incidents)
  | config (cause : ConfigError)
  deriving DecidableEq

def RunError.message : RunError → String
  | logFile path cause => "Error opening logfile [" ++ path ++ "]: " ++ cause.message
  | logWrite path cause => "Error writing logfile [" ++ path ++ "]: " ++ cause.message
  | mismatch report => report.message
  | incidents _ => "Error or Warning encountered -- check logs"
  | config cause => cause.message

namespace Session

def total (counts : List Nat) : Nat := counts.foldr (· + ·) 0

def summarize (parameters : Parameters) (reports : List Campaign.IterationReport)
    (incidents : Incidents) : Summary where
  seed := parameters.seed
  maxLength := parameters.maxLength
  iterations := reports.length
  tokens := total (reports.map (·.tokens))
  rollbacks := total (reports.map (·.rollbacks))
  incidents := incidents

-- Grows the queries. Incidents of any kind fail the run, also those from before it.
def campaign (fuel : Nat) (parameters : Parameters) (settings : Settings) (incidents : Incidents) :
    Option (Except RunError Summary × Incidents) :=
  let validator := Validator.reference settings.dialect .reject
  match Campaign.Setup.of settings.tokenConfig validator parameters.maxLength with
  | .error cause => some (.error (.config cause), incidents)
  | .ok setup =>
    let world : Campaign.World Keystream Unit := ⟨.ofSeed parameters.seedWord, (), incidents⟩
    match Campaign.run fuel setup parameters.iterations world with
    | none => none
    | some (_, some report, world) => some (.error (.mismatch report), world.incidents)
    | some (reports, none, world) =>
      if world.incidents.isClean then
        some (.ok (summarize parameters reports world.incidents), world.incidents)
      else some (.error (.incidents world.incidents), world.incidents)

variable {m : Type → Type} [Monad m] [Disk m]

def writeHeader (parameters : Parameters) : m (Except RunError Unit) := do
  match ← Disk.create parameters.logFile with
  | .error cause => pure (.error (.logFile parameters.logFile cause))
  | .ok () =>
    let written ← Disk.append parameters.logFile parameters.logLine
    pure (written.mapError (.logWrite parameters.logFile))

def writeSummary (parameters : Parameters) (summary : Summary) : m (Except RunError Summary) := do
  let written ← Disk.append parameters.logFile (summary.json ++ "\n")
  pure ((written.mapError (.logWrite parameters.logFile)).map fun _ => summary)

-- Has no result if the fuel does not last.
def run (fuel : Nat) (parameters : Parameters) (settings : Settings) (incidents : Incidents) :
    m (Option (Except RunError Summary × Incidents)) := do
  match ← writeHeader parameters with
  | .error error => pure (some (.error error, incidents))
  | .ok () =>
    match campaign fuel parameters settings incidents with
    | none => pure none
    | some (.error error, incidents) => pure (some (.error error, incidents))
    | some (.ok summary, incidents) =>
      let result ← writeSummary parameters summary
      pure (some (result, incidents))

end Session

end QueryTaint
