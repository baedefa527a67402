import QueryTaint.LogFilter.Pattern
import QueryTaint.Lexis.Number
import QueryTaint.Text.Blank
import QueryTaint.Text.Pieces

namespace QueryTaint.LogFilter

-- Why a filter is refused. A cut inside a character cannot be made at all.
inductive Fault where
  | malformed
  | brokenCharacter
  deriving DecidableEq

def levels : List String := ["", "off", "error", "warn", "info", "debug", "trace"]

-- A level has a name, in letters of either case, or a number up to five.
def isLevel (chars : List Char) : Bool :=
  let digits := match chars with
    | '+' :: rest => rest
    | chars => chars
  levels.contains (String.ofList (chars.map Char.toLower)) ||
    (!digits.isEmpty && digits.all Char.isDigit &&
      digits.foldl (fun value digit => value * 10 + (digit.toNat - 48)) 0 ≤ 5)

-- Numbers have a sign that would repeat nothing in a pattern.
def isValue (chars : List Char) : Bool :=
  match chars with
  | '+' :: rest =>
    Number.isLiteral chars ||
      ["inf", "infinity", "nan"].contains (String.ofList (rest.map Char.toLower))
  | chars => isPattern chars

-- A field has a name and may have a value after an equals sign, up to another one.
def isField (chars : List Char) : Bool :=
  !chars.isEmpty &&
    match chars.dropWhile (· ≠ '=') with
    | [] => true
    | _ :: value => isValue (value.takeWhile (· ≠ '='))

-- The characters before and after an offset in bytes, if it does not fall inside one.
def splitAt? (offset : Nat) : List Char → Option (List Char × List Char)
  | [] => if offset = 0 then some ([], []) else none
  | char :: rest =>
    if offset = 0 then some ([], char :: rest)
    else if char.utf8Size ≤ offset then
      (splitAt? (offset - char.utf8Size) rest).map fun (before, after) => (char :: before, after)
    else none

-- The piece between two offsets.
def piece (chars : List Char) (start stop : Nat) : Except Fault (List Char) :=
  match splitAt? stop chars with
  | none => .error .brokenCharacter
  | some (before, _) =>
    match splitAt? start before with
    | none => .error .brokenCharacter
    | some (_, piece) => .ok piece

-- What is being read of a directive, with the offset where a piece begins that may matter. A
-- directive is a level, or a target with a span in brackets, which may hold fields in braces, and a
-- level behind it.
inductive Stage where
  | start
  | levelOrTarget
  | span (start : Nat)
  | field (start : Nat)
  | fields
  -- After the bracket that ends a span.
  | target
  | level (start : Nat)
  deriving DecidableEq

def require (condition : Bool) (stage : Stage) : Except Fault Stage :=
  if condition then .ok stage else .error .malformed

-- Reads a character at an offset. Pieces are cut from `chars`, the directive as it was given.
def Stage.next (chars : List Char) (offset : Nat) (stage : Stage) (char : Char) :
    Except Fault Stage :=
  match stage with
  | start =>
    if char = '[' then .ok (span (offset + 1))
    else require (isAlphanumeric char || char = '-' || char = ':' || char = '_') levelOrTarget
  | levelOrTarget =>
    if char = '=' then (piece chars 0 offset).map fun _ => level (offset + 1)
    else if char = '[' then (piece chars 0 offset).map fun _ => span (offset + 1)
    else .ok levelOrTarget
  | span first =>
    if char = ']' then (piece chars first offset).map fun _ => target
    else if char = '\x7b' then (piece chars first offset).map fun _ => field (offset + 1)
    else .ok stage
  | field first =>
    if char = '\x7d' then do
      let name ← piece chars first offset
      require (isField name) fields
    else .ok stage
  | fields => require (char = ']') target
  | target => require (char = '=') (level (offset + 1))
  | level _ => .ok stage

-- Whether a directive may end here.
def Stage.finish (chars : List Char) (stop : Nat) : Stage → Except Fault Unit
  | levelOrTarget | target => .ok ()
  | level first => do
    let name ← piece chars first stop
    if isLevel name then .ok () else .error .malformed
  | start | span _ | field _ | fields => .error .malformed

def size (chars : List Char) : Nat := chars.foldr (fun char total => char.utf8Size + total) 0

def readDirective (chars : List Char) (offset : Nat) (stage : Stage) :
    List Char → Except Fault Unit
  | [] => stage.finish chars (size chars)
  | char :: rest => do
    let stage ← stage.next chars offset char
    readDirective chars (offset + char.utf8Size) stage rest

-- A directive is read without the white space around it. Offsets are those of what is read,
-- although pieces are cut from the directive with its white space.
def checkDirective (chars : List Char) : Except Fault Unit :=
  readDirective chars 0 .start (trim chars)

-- A filter is a list of directives with commas between them; empty ones do not count. The first
-- that is refused decides.
def check (filter : String) : Except Fault Unit :=
  ((pieces ',' filter.toList).filter (· ≠ [])).forM checkDirective

end QueryTaint.LogFilter
