import QueryTaint.Text.Blank

namespace QueryTaint.LogFilter.Pattern

structure Modes where
  -- White space stands for nothing, and a hash sign starts a comment.
  verbose : Bool
  -- Characters are those of Unicode; otherwise they are bytes.
  unicode : Bool
  -- Letters stand for themselves in either case.
  anyCase : Bool

-- What follows white space and comments. A comment ends with its line.
def skipBlank (comment : Bool) : List Char → List Char
  | [] => []
  | char :: rest =>
    if comment then skipBlank (char ≠ '\n') rest
    else if isBlank char then skipBlank false rest
    else if char = '#' then skipBlank true rest
    else char :: rest

-- Flags may follow a minus, and none stands twice.
def areFlags (flags : List Char) : Bool :=
  flags.all (fun flag => flag ∈ ['i', 'm', 's', 'U', 'u', 'R', 'x', '-'] && flags.count flag = 1) &&
    flags.getLast? ≠ some '-'

namespace Modes

def initial : Modes := ⟨false, true, false⟩

def skip (modes : Modes) (chars : List Char) : List Char :=
  if modes.verbose then skipBlank false chars else chars

-- The character that tells whether the dash before it stands for itself. It is looked for behind
-- white space and a hash sign, even in the comment.
def peek? (modes : Modes) (chars : List Char) : Option Char :=
  if modes.verbose then
    match chars.dropWhile isBlank with
    | '#' :: rest => (rest.dropWhile isBlank).head?
    | chars => chars.head?
  else chars.head?

-- The other flags do not matter for what a pattern may hold.
def set (modes : Modes) (value : Bool) (flag : Char) : Modes :=
  match flag with
  | 'x' => { modes with verbose := value }
  | 'u' => { modes with unicode := value }
  | 'i' => { modes with anyCase := value }
  | _ => modes

-- Flags behind a minus are switched off.
def switch (modes : Modes) (flags : List Char) : Modes :=
  let on := flags.takeWhile (· ≠ '-')
  let off := flags.dropWhile (· ≠ '-')
  off.foldl (set · false) (on.foldl (set · true) modes)

end Modes

end QueryTaint.LogFilter.Pattern
