namespace QueryTaint

inductive ViolationKind where
  | invalidValue
  | unseparatedValue
  | commentDelimiter
  | mixedQuoteEscape
  | closingQuote
  | nullByte
  | identifier
  | lineTerminator
  | nesting
  deriving DecidableEq

namespace ViolationKind

def name : ViolationKind → String
  | invalidValue => "invalid_tainted_value"
  | unseparatedValue => "unseparated_tainted_value"
  | commentDelimiter => "tainted_comment_delimiter"
  | mixedQuoteEscape => "mixed_quote_escape"
  | closingQuote => "tainted_closing_quote"
  | nullByte => "tainted_null_byte"
  | identifier => "tainted_identifier"
  | lineTerminator => "tainted_line_terminator"
  | nesting => "tainted_nesting"

def all : List ViolationKind :=
  [invalidValue, unseparatedValue, commentDelimiter, mixedQuoteEscape, closingQuote, nullByte,
    identifier, lineTerminator, nesting]

def ofName? (name : String) : Option ViolationKind := all.find? (·.name = name)

end ViolationKind

structure Violation where
  kind : ViolationKind
  offset : Nat
  deriving DecidableEq

def Violation.message (violation : Violation) : String :=
  let place := toString violation.offset
  match violation.kind with
  | .invalidValue => "Tainted value at " ++ place ++ " is neither a numeric nor a boolean literal"
  | .unseparatedValue =>
    "Tainted value at " ++ place ++ " is not separated from the preceding token"
  | .commentDelimiter => "Tainted comment delimiter at " ++ place
  | .mixedQuoteEscape => "Escaped quote at " ++ place ++ " has mixed taint"
  | .closingQuote => "Tainted closing quote at " ++ place
  | .nullByte => "Tainted null byte in string literal at " ++ place
  | .identifier => "Tainted character in quoted identifier at " ++ place
  | .lineTerminator => "Tainted line comment terminator at " ++ place
  | .nesting => "Tainted block comment nesting change at " ++ place

inductive Rejection where
  | violation (found : Violation)
  -- The construct that begins at the offset is not closed.
  | malformed (construct : String) (offset : Nat)
  deriving DecidableEq

def Rejection.message : Rejection → String
  | violation found => "Security violation: " ++ found.message
  | malformed construct offset =>
    "Malformed query: unterminated " ++ construct ++ " starting at " ++ toString offset

abbrev Verdict := Except Rejection Unit

instance decidableEqExcept {ε α : Type} [DecidableEq ε] [DecidableEq α] :
    DecidableEq (Except ε α)
  | .ok left, .ok right => decidable_of_iff (left = right) ⟨congrArg Except.ok, Except.ok.inj⟩
  | .error left, .error right =>
    decidable_of_iff (left = right) ⟨congrArg Except.error, Except.error.inj⟩
  | .ok _, .error _ => isFalse nofun
  | .error _, .ok _ => isFalse nofun

end QueryTaint
