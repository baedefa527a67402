import QueryTaint.Text.Basic

namespace QueryTaint

inductive TokenKind where
  | stringLiteral
  | quotedIdentifier
  | number
  | lineComment
  | blockComment
  | other
  | boolean
  deriving DecidableEq

namespace TokenKind

def all : List TokenKind :=
  [stringLiteral, quotedIdentifier, number, lineComment, blockComment, other, boolean]

def name : TokenKind → String
  | stringLiteral => "SingleQuoteLiteral"
  | quotedIdentifier => "QuotedIdentifier"
  | number => "Number"
  | lineComment => "LineComment"
  | blockComment => "BlockComment"
  | other => "Other"
  | boolean => "Boolean"

def ofName? (name : String) : Option TokenKind := all.find? (·.name = name)

end TokenKind

-- What is expected of the validator once the token has been appended.
inductive Expectation where
  | accept
  | violation (cause : String)
  deriving DecidableEq

namespace Expectation

-- What two pieces come to together: the first cause stays.
def both : Expectation → Expectation → Expectation
  | accept, later => later
  | violation cause, _ => violation cause

-- Expects a violation for the cause, unless one is expected already.
def expect (expectation : Expectation) (cause : String) : Expectation :=
  expectation.both (violation cause)

-- Expects a violation if the fault is there.
def given (fault : Bool) (cause : String) : Expectation := if fault then violation cause else accept

def isViolation : Expectation → Bool
  | accept => false
  | violation _ => true

end Expectation

structure Token where
  text : Text
  expectation : Expectation
  deriving DecidableEq

namespace Token

def empty : Token := ⟨[], .accept⟩

def cell (char : Char) (tainted : Bool) : Token := ⟨[⟨char, tainted⟩], .accept⟩

def uniform (tainted : Bool) (chars : List Char) : Token := ⟨.uniform tainted chars, .accept⟩

instance : Append Token where
  append left right := ⟨left.text ++ right.text, left.expectation.both right.expectation⟩

def join (pieces : List Token) : Token := pieces.foldr (· ++ ·) empty

@[simp] theorem text_append (left right : Token) : (left ++ right).text = left.text ++ right.text :=
  rfl

@[simp] theorem expectation_append (left right : Token) :
    (left ++ right).expectation = left.expectation.both right.expectation := rfl

end Token

end QueryTaint
