import QueryTaint.LogFilter.Pattern.Modes
import QueryTaint.Text.Alphanumeric

namespace QueryTaint.LogFilter.Pattern

-- What a parenthesis opens. A group without a name has an empty one.
inductive Opening where
  | group (name : List Char) (modes : Modes)
  | flags (modes : Modes)

namespace Opening

def isNameChar (char : Char) : Bool :=
  isAlphanumeric char || char = '_' || char = '.' || char = '[' || char = ']'

def isName : List Char → Bool
  | [] => false
  | first :: rest => (isAlphabetic first || first = '_') && rest.all isNameChar

def readNamed? (modes : Modes) (chars : List Char) : Option (Opening × List Char) :=
  let name := chars.takeWhile (· ≠ '>')
  match chars.drop name.length with
  | '>' :: rest => if isName name then some (group name modes, rest) else none
  | _ => none

def readFlags? (modes : Modes) (chars : List Char) : Option (Opening × List Char) :=
  let flags := chars.takeWhile fun char => char ≠ ':' ∧ char ≠ ')'
  match chars.drop flags.length with
  | ':' :: rest => if areFlags flags then some (group [] (modes.switch flags), rest) else none
  | ')' :: rest =>
    if areFlags flags ∧ flags ≠ [] then some (Opening.flags (modes.switch flags), rest) else none
  | _ => none

-- What stands behind the parenthesis, and what follows it.
def read? (modes : Modes) (chars : List Char) : Option (Opening × List Char) :=
  match modes.skip chars with
  | '?' :: 'P' :: '<' :: rest | '?' :: '<' :: rest => readNamed? modes rest
  | '?' :: rest => readFlags? modes rest
  | chars => some (group [] modes, chars)

end Opening

end QueryTaint.LogFilter.Pattern
