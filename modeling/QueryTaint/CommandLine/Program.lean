import QueryTaint.CommandLine.Arguments
import QueryTaint.LogFilter.Directive
import QueryTaint.Session

namespace QueryTaint.CommandLine

-- The arguments with a seed for a run that is given none.
def Arguments.parameters (arguments : Arguments) (seed : Int) : Parameters where
  seed := arguments.seed.getD seed
  maxLength := arguments.maxLength
  iterations := arguments.iterations
  logFile := arguments.logFile

structure Exit where
  code : UInt32
  output : String
  deriving DecidableEq

namespace Exit

def success : Exit := ⟨0, ""⟩

def failure (output : String) : Exit := ⟨1, output⟩

-- The program has broken off.
def abort : Exit := ⟨101, ""⟩

def ofFilterFault : LogFilter.Fault → Exit
  | .malformed => failure ""
  | .brokenCharacter => abort

-- A disagreement is told in full, with the arguments that bring it up again.
def ofError (parameters : Parameters) : RunError → Exit
  | .mismatch report =>
    failure (report.dump ++ "\nReplay with: " ++
      String.ofList (trimEnd parameters.logLine.toList) ++ "\n")
  | error => failure (error.message ++ "\n")

end Exit

-- More steps than any run takes.
def patience : Nat := 0x4000000000000000

-- The arguments are looked at first, then the filter of the log. `seed` serves a run without one.
def program {m : Type → Type} [Monad m] [Disk m] (fuel : Nat) (lookup : String → Option String)
    (seed : Int) (arguments : List String) : m (Option Exit) := do
  match parse arguments with
  | .error error => pure (some (.failure error.message))
  | .ok arguments =>
    let settings := Settings.ofEnvironment lookup
    match LogFilter.check settings.logLevel with
    | .error fault => pure (some (.ofFilterFault fault))
    | .ok () =>
      let parameters := arguments.parameters seed
      match ← Session.run fuel parameters settings .none with
      | none => pure none
      | some (.ok _, _) => pure (some .success)
      | some (.error error, _) => pure (some (.ofError parameters error))

end QueryTaint.CommandLine
