import QueryTaint.Text.Basic

namespace QueryTaint

def isSpace (char : Char) : Bool :=
  [' ', '\t', '\n', '\r', '\x0b', '\x0c'].contains char

def isOperator (char : Char) : Bool :=
  ['+', '-', '*', '/', '%', '<', '>', '=', '!', '~', '^', '&', '|', '?', ':', '@', '#'].contains
    char

-- Punctuation that ends the token before it.
def isPunctuation (char : Char) : Bool :=
  ['(', ')', '[', ']', '\x7b', '\x7d', ',', ';'].contains char

def isLineEnd (char : Char) : Bool := char = '\r' || char = '\n'

theorem isLineEnd_iff {char : Char} : isLineEnd char = true ↔ char = '\r' ∨ char = '\n' := by
  simp [isLineEnd]

theorem isLineEnd_eq_false_iff {char : Char} :
    isLineEnd char = false ↔ char ≠ '\r' ∧ char ≠ '\n' := by
  simp [isLineEnd]

-- Whether an untrusted value may begin right after this cell. A tainted cell never qualifies: the
-- value would fuse with untrusted text before it.
def Cell.isBoundary (cell : Cell) : Bool :=
  !cell.tainted && (isSpace cell.char || isOperator cell.char || isPunctuation cell.char)

-- The start of a text separates as well as a boundary does.
def separates : Option Cell → Bool
  | none => true
  | some cell => cell.isBoundary

-- Whether two neighbours spell one of the comment delimiters.
def formsDelimiter (first second : Char) : Bool :=
  [('/', '*'), ('*', '/'), ('-', '-'), ('/', '/')].contains (first, second)

-- One of the two truth values, in any mixture of cases.
def isBoolean (chars : List Char) : Bool :=
  let lower := chars.map Char.toLower
  lower = ['t', 'r', 'u', 'e'] || lower = ['f', 'a', 'l', 's', 'e']

end QueryTaint
