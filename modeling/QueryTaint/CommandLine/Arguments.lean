import QueryTaint.CommandLine.Setting

namespace QueryTaint.CommandLine

-- What is still open between two arguments.
inductive Pending where
  | nothing
  -- A flag without a value yet.
  | awaited (flag : Flag)
  -- A flag with a value that has not been looked at.
  | unread (flag : Flag) (value : String)
  deriving DecidableEq

namespace Pending

def resolve (pending : Pending) (given : Given) : Except ArgumentError Given :=
  match pending with
  | nothing => .ok given
  | awaited flag => .error (.missingValue flag)
  | unread flag value => given.set flag value

-- The flags in use. One whose value is still unread counts, whatever that is; but one that it would
-- set twice does not.
def used (pending : Pending) (given : Given) : List Flag :=
  match pending with
  | unread flag _ =>
    if flag ∈ given.used then given.used.filter (· ≠ flag) else given.used ++ [flag]
  | _ => given.used

-- Whether an argument is the value of the flag right before it, whatever it looks like.
def takes (pending : Pending) (argument : List Char) : Option Flag :=
  match pending with
  | awaited .seed => some .seed
  | awaited flag =>
    match argument with
    | '-' :: _ :: _ => none
    | _ => some flag
  | _ => none

end Pending

-- The value that stands in the same argument as its flag, if one does.
def attached : List Char → Option String
  | [] => none
  | '=' :: value => some (String.ofList value)
  | value => some (String.ofList value)

-- After two dashes a flag has a name, which ends before an equals sign. No flag is called so.
def longName (name : List Char) : String := "--" ++ String.ofList (name.takeWhile (· ≠ '='))

-- A value of its own argument is looked at only when the next flag starts or the arguments end; one
-- that stands in the same argument as its flag is looked at there. An argument that makes no sense
-- is found before the value that is still open.
def readArguments (given : Given) (pending : Pending) : List String → Except ArgumentError Given
  | [] => pending.resolve given
  | argument :: rest =>
    match pending.takes argument.toList with
    | some flag => readArguments given (.unread flag argument) rest
    | none =>
      match argument.toList with
      | ['-', '-'] =>
        match rest with
        | [] => pending.resolve given
        | extra :: _ => .error (.unknownArgument extra [])
      | '-' :: '-' :: name => .error (.unknownArgument (longName name) (pending.used given))
      | '-' :: letter :: value =>
        match Flag.ofLetter? letter with
        | none => .error (.unknownArgument (String.ofList ['-', letter]) [])
        | some flag => do
          let given ← pending.resolve given
          match attached value with
          | none => readArguments given (.awaited flag) rest
          | some value => do
            let given ← given.set flag value
            readArguments given .nothing rest
      | _ => .error (.unknownArgument argument [])

structure Arguments where
  seed : Option Int
  maxLength : Nat
  iterations : Nat
  logFile : String
  deriving DecidableEq

def Given.arguments (given : Given) : Arguments where
  seed := given.seed?
  maxLength := given.maxLength?.getD 65536
  iterations := given.iterations?.getD 16384
  logFile := given.logFile?.getD "SqlTaintFuzz.log"

def parse (arguments : List String) : Except ArgumentError Arguments := do
  let given ← readArguments [] .nothing arguments
  .ok given.arguments

end QueryTaint.CommandLine
