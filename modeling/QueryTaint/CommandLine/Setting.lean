import QueryTaint.CommandLine.Flag

namespace QueryTaint.CommandLine

-- A flag with its value.
inductive Setting where
  | seed (value : Int)
  | maxLength (value : Nat)
  | iterations (value : Nat)
  | logFile (path : String)
  deriving DecidableEq

def Setting.flag : Setting → Flag
  | seed _ => .seed
  | maxLength _ => .maxLength
  | iterations _ => .iterations
  | logFile _ => .logFile

def parseMaxLength (text : String) : Except ValueError Nat :=
  match Integer.decode text with
  | .error cause => .error (.integer cause)
  | .ok value => if 2 ≤ value then .ok value.toNat else .error (.maxLengthTooSmall value)

def parseIterations (text : String) : Except ValueError Nat :=
  match Integer.decode text with
  | .error cause => .error (.integer cause)
  | .ok value => if 0 ≤ value then .ok value.toNat else .error (.negativeIterations value)

def parseSeed (text : String) : Except ValueError Int :=
  match Integer.decode text with
  | .error cause => .error (.integer cause)
  | .ok value => .ok value

def Flag.setting (flag : Flag) (value : String) : Except ArgumentError Setting :=
  let invalid {α : Type} (parsed : Except ValueError α) : Except ArgumentError α :=
    parsed.mapError (.invalidValue flag value)
  match flag with
  | seed => (invalid (parseSeed value)).map .seed
  | maxLength => (invalid (parseMaxLength value)).map .maxLength
  | iterations => (invalid (parseIterations value)).map .iterations
  | logFile => if value.isEmpty then .error (.missingValue flag) else .ok (.logFile value)

-- What the arguments have set so far, in their order.
abbrev Given := List Setting

namespace Given

def used (given : Given) : List Flag := given.map Setting.flag

-- Sets a flag to a value. That a flag is set twice is found before the second value is looked at.
def set (given : Given) (flag : Flag) (value : String) : Except ArgumentError Given :=
  if flag ∈ given.used then .error (.conflict flag)
  else (flag.setting value).map fun setting => given ++ [setting]

def seed? (given : Given) : Option Int :=
  given.findSome? fun
    | .seed value => some value
    | _ => none

def maxLength? (given : Given) : Option Nat :=
  given.findSome? fun
    | .maxLength value => some value
    | _ => none

def iterations? (given : Given) : Option Nat :=
  given.findSome? fun
    | .iterations value => some value
    | _ => none

def logFile? (given : Given) : Option String :=
  given.findSome? fun
    | .logFile path => some path
    | _ => none

end Given

end QueryTaint.CommandLine
