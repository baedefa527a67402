import QueryTaint.Text.Quoted

namespace QueryTaint

-- Each cause carries the whole text.
inductive IntegerError where
  | malformed (text : String)
  | invalidDigit (text : String)
  | tooLarge (text : String)
  | outOfRange (text : String)
  deriving DecidableEq

def IntegerError.message : IntegerError → String
  | malformed text => "invalid integer: " ++ quote text
  | invalidDigit text => "invalid integer " ++ quote text ++ ": invalid digit found in string"
  | tooLarge text =>
    "invalid integer " ++ quote text ++ ": number too large to fit in target type"
  | outOfRange text => "integer out of range: " ++ text

namespace Integer

-- The value of a digit in a base of at most sixteen.
def digitValue? (base : Nat) (char : Char) : Option Nat :=
  let code := char.toNat
  let value :=
    if 48 ≤ code ∧ code ≤ 57 then some (code - 48)
    else if 97 ≤ code ∧ code ≤ 102 then some (code - 87)
    else if 65 ≤ code ∧ code ≤ 70 then some (code - 55)
    else none
  value.filter (· < base)

-- Magnitudes are read into 127 bits before their range is looked at.
def largestMagnitude : Nat := 0x7fffffffffffffffffffffffffffffff

inductive DigitError where
  | invalid
  | overflow
  deriving DecidableEq

-- Reads on from the value of the digits before.
def magnitude (base : Nat) (value : Nat) : List Char → Except DigitError Nat
  | [] => .ok value
  | char :: rest =>
    match digitValue? base char with
    | none => .error .invalid
    | some digit =>
      if value * base + digit ≤ largestMagnitude then magnitude base (value * base + digit) rest
      else .error .overflow

def splitSign : List Char → Bool × List Char
  | '-' :: rest => (true, rest)
  | '+' :: rest => (false, rest)
  | chars => (false, chars)

-- The base and the digits. A zero alone is decimal.
def splitBase : List Char → Nat × List Char
  | '0' :: 'x' :: rest => (16, rest)
  | '0' :: 'X' :: rest => (16, rest)
  | '#' :: rest => (16, rest)
  | '0' :: char :: rest => (8, char :: rest)
  | chars => (10, chars)

def startsWithSign : List Char → Bool
  | char :: _ => char = '+' || char = '-'
  | [] => false

def inRange (value : Int) : Bool := -0x8000000000000000 ≤ value && value ≤ 0x7fffffffffffffff

def decode (text : String) : Except IntegerError Int :=
  let (negative, body) := splitSign text.toList
  let (base, digits) := splitBase body
  if digits.isEmpty || startsWithSign digits then .error (.malformed text)
  else
    match magnitude base 0 digits with
    | .error .invalid => .error (.invalidDigit text)
    | .error .overflow => .error (.tooLarge text)
    | .ok magnitude =>
      let value : Int := if negative then -magnitude else magnitude
      if inRange value then .ok value else .error (.outOfRange text)

end Integer

end QueryTaint
