import QueryTaint.CommandLine.Integer
import QueryTaint.Text.Terminal

namespace QueryTaint.CommandLine

inductive Flag where
  | seed
  | maxLength
  | iterations
  | logFile
  deriving DecidableEq

namespace Flag

def ofLetter? : Char → Option Flag
  | 's' => some seed
  | 'l' => some maxLength
  | 'n' => some iterations
  | 'f' => some logFile
  | _ => none

-- The flag as messages show it.
def display : Flag → String
  | seed => "-s <SEED>"
  | maxLength => "-l <MAX_LEN>"
  | iterations => "-n <ITERATIONS>"
  | logFile => "-f <LOGFILE>"

end Flag

inductive ValueError where
  | integer (cause : IntegerError)
  | maxLengthTooSmall (value : Int)
  | negativeIterations (value : Int)
  deriving DecidableEq

def ValueError.message : ValueError → String
  | integer cause => cause.message
  | maxLengthTooSmall value => "maximum length must be at least 2, got " ++ toString value
  | negativeIterations value => "iteration count must not be negative, got " ++ toString value

-- An argument that is refused is told with the flags that usage shows, in their order.
inductive ArgumentError where
  | unknownArgument (argument : String) (used : List Flag)
  | missingValue (flag : Flag)
  | invalidValue (flag : Flag) (value : String) (cause : ValueError)
  | conflict (flag : Flag)
  deriving DecidableEq

namespace ArgumentError

def kind : ArgumentError → String
  | unknownArgument _ _ => "UnknownArgument"
  | missingValue _ => "InvalidValue"
  | invalidValue _ _ _ => "ValueValidation"
  | conflict _ => "ArgumentConflict"

-- How the program is called: with the flags in use if there are any, else with those it has.
def usage (used : List Flag) : String :=
  let flags := if used.isEmpty then "[OPTIONS]" else " ".intercalate (used.map Flag.display)
  "\n\nUsage: sqltaint-fuzz " ++ flags ++ "\n"

-- A part of an argument is repeated as a terminal prints it, so that it cannot steer one.
def message : ArgumentError → String
  | unknownArgument argument used =>
    "error: unexpected argument '" ++ Terminal.print argument ++ "' found" ++ usage used
  | missingValue flag =>
    "error: a value is required for '" ++ flag.display ++ "' but none was supplied\n"
  | invalidValue flag value cause =>
    "error: invalid value '" ++ Terminal.print value ++ "' for '" ++ flag.display ++ "': " ++
      cause.message ++ "\n"
  | conflict flag =>
    "error: the argument '" ++ flag.display ++ "' cannot be used multiple times" ++ usage []

end ArgumentError

end QueryTaint.CommandLine
