namespace QueryTaint.Number

-- What has been read of a literal.
inductive Stage where
  | start
  | sign
  | whole
  -- A point with digits before it.
  | point
  -- A point with none.
  | leadingPoint
  | fraction
  | exponent
  | exponentSign
  | exponentDigits
  deriving DecidableEq

def isSign (char : Char) : Bool := char = '+' || char = '-'

def isExponent (char : Char) : Bool := char = 'e' || char = 'E'

theorem isSign_iff {char : Char} : isSign char = true ↔ char = '+' ∨ char = '-' := by
  simp [isSign]

theorem isExponent_iff {char : Char} : isExponent char = true ↔ char = 'e' ∨ char = 'E' := by
  simp [isExponent]

namespace Stage

def next (stage : Stage) (char : Char) : Option Stage :=
  match stage with
  | start =>
    if isSign char then some sign
    else if char.isDigit then some whole
    else if char = '.' then some leadingPoint
    else none
  | sign => if char.isDigit then some whole else if char = '.' then some leadingPoint else none
  | whole =>
    if char.isDigit then some whole
    else if char = '.' then some point
    else if isExponent char then some exponent
    else none
  | point | fraction =>
    if char.isDigit then some fraction else if isExponent char then some exponent else none
  | leadingPoint => if char.isDigit then some fraction else none
  | exponent =>
    if isSign char then some exponentSign else if char.isDigit then some exponentDigits else none
  | exponentSign | exponentDigits => if char.isDigit then some exponentDigits else none

-- Whether what has been read is a whole literal.
def accepts : Stage → Bool
  | whole | point | fraction | exponentDigits => true
  | start | sign | leadingPoint | exponent | exponentSign => false

-- The most characters, at least one, that can be read on to complete a literal.
def longest (stage : Stage) : List Char → Option Nat
  | [] => none
  | char :: rest =>
    match stage.next char with
    | none => none
    | some following =>
      match following.longest rest with
      | some count => some (count + 1)
      | none => if following.accepts then some 1 else none

end Stage

-- The length of the longest literal that the characters begin with.
def longest? (chars : List Char) : Option Nat := Stage.start.longest chars

def isLiteral (chars : List Char) : Bool := longest? chars = some chars.length

end QueryTaint.Number
