import Mathlib.Init
import QueryTaint.CommandLine.Program

namespace QueryTaint.CommandLine

def diskError : IO.Error → DiskError
  | .noFileOrDirectory _ code text => ⟨text, some code.toNat⟩
  | .inappropriateType _ code text => ⟨text, some code.toNat⟩
  | .permissionDenied _ code text => ⟨text, some code.toNat⟩
  | .resourceExhausted _ code text => ⟨text, some code.toNat⟩
  | .invalidArgument _ code text => ⟨text, some code.toNat⟩
  | .otherError code text => ⟨text, some code.toNat⟩
  | error => ⟨toString error, none⟩

def attempt (action : IO Unit) : IO (Except DiskError Unit) := do
  try
    action
    pure (.ok ())
  catch error => pure (.error (diskError error))

instance : Disk IO where
  create path := attempt do
    let _ ← IO.FS.Handle.mk path .write
  append path text := attempt do
    let file ← IO.FS.Handle.mk path .append
    file.putStr text
    file.flush

def settingNames : List String :=
  ["SQLTAINT_LOG_LEVEL", "SQLTAINT_LOG_FORMAT", "SQLTAINT_NESTED_COMMENTS", "SQLTAINT_GUARD_CHARS"]

-- A run without a seed takes the milliseconds since 1970; before that the clock counts as zero.
def runProgram (arguments : List String) : IO UInt32 := do
  let values ← settingNames.mapM fun name => do pure (name, ← IO.getEnv name)
  let now ← Std.Time.Timestamp.now
  let clock := now.toMillisecondsSinceUnixEpoch.toInt.toNat
  match ← program patience (fun name => (values.lookup name).join) clock arguments with
  | some exit =>
    IO.print exit.output
    pure exit.code
  | none => pure 1

end QueryTaint.CommandLine

def main (arguments : List String) : IO UInt32 := QueryTaint.CommandLine.runProgram arguments
