import QueryTaint.Token.Basic
import QueryTaint.Scan

namespace QueryTaint

-- Each field is the number of draws in which the thing happens once; zero means never.
structure Odds where
  -- A character is any scalar instead of one of the alphabet.
  unicode : UInt32
  -- A quote of a string literal has the wrong bit.
  literalFault : UInt32
  -- A character of a quoted identifier is tainted.
  identifierTaint : UInt32
  -- A character of free-form text is tainted.
  otherTaint : UInt32
  -- A character of a truth value has the other bit.
  booleanNoise : UInt32
  -- A tainted value that needs a separator has none.
  separatorFault : UInt32
  -- A character is the null character.
  null : UInt32
  deriving DecidableEq

def Odds.default : Odds where
  unicode := 12
  literalFault := 256
  identifierTaint := 1024
  otherTaint := 64
  booleanNoise := 128
  separatorFault := 256
  null := 0

-- Halves of comment delimiters, which the next token might complete.
def Guard.base : List Char := ['/', '*', '-']

-- Characters that end free-form text only with a space after them.
structure Guard where
  chars : List Char
  base_subset : Guard.base ⊆ chars
  deriving DecidableEq

namespace Guard

def add (guard : Guard) (char : Char) : Guard :=
  if char ∈ guard.chars then guard
  else ⟨guard.chars ++ [char], List.Subset.trans guard.base_subset (List.subset_append_left ..)⟩

def withExtra (extra : List Char) : Guard := extra.foldl add ⟨base, List.Subset.refl _⟩

-- Digits are guarded always.
def requires (guard : Guard) (char : Char) : Bool := char.isDigit || guard.chars.contains char

end Guard

structure TokenConfig where
  dialect : Dialect
  odds : Odds
  guard : Guard
  kinds : List TokenKind
  deriving DecidableEq

def TokenConfig.default : TokenConfig where
  dialect := ⟨false⟩
  odds := .default
  guard := .withExtra []
  kinds := TokenKind.all

inductive ConfigError where
  | noTokenKinds
  | maxLengthTooSmall (given : Nat)
  deriving DecidableEq

def ConfigError.message : ConfigError → String
  | noTokenKinds => "No token kinds enabled"
  | maxLengthTooSmall given => "Maximum query length must be at least 2, got " ++ toString given

end QueryTaint
