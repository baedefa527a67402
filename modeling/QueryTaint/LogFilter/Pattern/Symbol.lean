import QueryTaint.LogFilter.Pattern.Modes

namespace QueryTaint.LogFilter.Pattern

inductive Symbol where
  | char (value : Char)
  -- What two hexadecimal digits stand for: a byte, where characters are bytes.
  | byte (value : Char)
  -- Digits, white space, or the characters of words.
  | kind
  -- The start or the end of the text.
  | edge
  -- The start or the end of a word, or neither.
  | border

namespace Symbol

def hexValue? (sign : Char) : Option Nat :=
  if sign.isDigit then some (sign.toNat - 48)
  else if 'a' ≤ sign ∧ sign ≤ 'f' then some (sign.toNat - 87)
  else if 'A' ≤ sign ∧ sign ≤ 'F' then some (sign.toNat - 55)
  else none

-- The character with a code point of `count` more digits behind those of `code`, and what follows.
def hexChar? (modes : Modes) (code : Nat) : (count : Nat) → List Char → Option (Char × List Char)
  | 0, chars => if code.isValidChar then some (Char.ofNat code, chars) else none
  | count + 1, chars =>
    match modes.skip chars with
    | [] => none
    | sign :: rest => do
      let digit ← hexValue? sign
      hexChar? modes (code * 16 + digit) count rest

-- What stands behind a backslash. A kind that leaves characters out would hold bytes that are only
-- parts of characters, so there is none.
def readEscaped? (modes : Modes) : List Char → Option (Symbol × List Char)
  | [] => none
  | 'x' :: rest => do
    let (value, rest) ← hexChar? modes 0 2 rest
    pure (byte value, rest)
  | 'u' :: rest => do
    let (value, rest) ← hexChar? modes 0 4 rest
    pure (char value, rest)
  | 'U' :: rest => do
    let (value, rest) ← hexChar? modes 0 8 rest
    pure (char value, rest)
  | 'a' :: rest => some (char '\x07', rest)
  | 't' :: rest => some (char '\t', rest)
  | 'n' :: rest => some (char '\n', rest)
  | 'v' :: rest => some (char '\x0b', rest)
  | 'f' :: rest => some (char '\x0c', rest)
  | 'r' :: rest => some (char '\r', rest)
  | 'd' :: rest | 's' :: rest | 'w' :: rest => some (kind, rest)
  | 'A' :: rest | 'z' :: rest => some (edge, rest)
  | 'b' :: rest | 'B' :: rest | '<' :: rest | '>' :: rest => some (border, rest)
  | sign :: rest =>
    if 0x80 ≤ sign.toNat ∨ sign.isAlphanum then none else some (char sign, rest)

-- The symbol at the start, and what follows it.
def read? (modes : Modes) : List Char → Option (Symbol × List Char)
  | [] => none
  | '\\' :: rest => readEscaped? modes rest
  | sign :: rest => some (char sign, rest)

-- Whether a byte, or any member of a set, is supported. Where characters are bytes, only those of
-- one byte are whole.
def isSupported (modes : Modes) (value : Char) : Bool :=
  if modes.unicode then !modes.anyCase else value.toNat < 0x80

-- Whether a symbol may stand on its own.
def isItem (modes : Modes) : Symbol → Bool
  | char _ => !(modes.unicode && modes.anyCase)
  | byte value => isSupported modes value
  | edge => true
  | kind | border => !modes.unicode

-- The character that a symbol gives to a set.
def member? (modes : Modes) : Symbol → Option Char
  | char value | byte value => if isSupported modes value then some value else none
  | kind | edge | border => none

-- Whether a symbol may stand in a set.
def isMember (modes : Modes) : Symbol → Bool
  | kind => !modes.unicode
  | symbol => (symbol.member? modes).isSome

end Symbol

end QueryTaint.LogFilter.Pattern
