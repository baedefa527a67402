import QueryTaint.Text.Blank
import QueryTaint.Token.Config

namespace QueryTaint

inductive LogFormat where
  | json
  | pretty
  deriving DecidableEq

namespace LogFormat

def name : LogFormat → String
  | json => "Json"
  | pretty => "Pretty"

structure Unknown where
  format : String
  deriving DecidableEq

def Unknown.message (unknown : Unknown) : String := "Unknown log format: " ++ unknown.format

def parse (text : String) : Except Unknown LogFormat :=
  match normalize text with
  | "json" => .ok json
  | "pretty" => .ok pretty
  | other => .error ⟨other⟩

end LogFormat

structure Settings where
  logLevel : String
  logFormat : LogFormat
  dialect : Dialect
  extraGuard : List Char
  deriving DecidableEq

namespace Settings

def default : Settings := ⟨"warn", .json, ⟨false⟩, []⟩

def parseSwitch (text : String) : Option Bool :=
  match normalize text with
  | "1" | "true" | "yes" | "on" => some true
  | "0" | "false" | "no" | "off" => some false
  | _ => none

def levelOf (value : Option String) : String :=
  match value with
  | some level => if level.toList.all isBlank then "warn" else level
  | none => "warn"

def formatOf (value : Option String) : LogFormat :=
  match value.map LogFormat.parse with
  | some (.ok format) => format
  | _ => .json

-- A variable with a value that makes no sense counts as one that is not set.
def ofEnvironment (lookup : String → Option String) : Settings where
  logLevel := levelOf (lookup "SQLTAINT_LOG_LEVEL")
  logFormat := formatOf (lookup "SQLTAINT_LOG_FORMAT")
  dialect := ⟨((lookup "SQLTAINT_NESTED_COMMENTS").bind parseSwitch).getD false⟩
  extraGuard := ((lookup "SQLTAINT_GUARD_CHARS").map String.toList).getD []

def tokenConfig (settings : Settings) : TokenConfig :=
  { TokenConfig.default with
    dialect := settings.dialect
    guard := .withExtra settings.extraGuard }

end Settings

end QueryTaint
