import QueryTaint.Token.Character

namespace QueryTaint.Token

variable {σ : Type} [Source σ]

-- What comes before a tainted value: a clean space if the query does not separate it, and once in a
-- while nothing, which is a violation.
def separator (odds : Odds) (last : Option Cell) : Draw σ Token := do
  if separates last then pure empty
  else if ← Draw.oneIn odds.separatorFault then pure ⟨[], .violation "unseparated tainted value"⟩
  else pure (cell ' ' false)

def sign : Draw σ (List Char) := do
  if ← Draw.coin then
    let sign ← Draw.either '+' '-'
    pure [sign]
  else pure []

def digit : Draw σ Char := do
  let digit ← Draw.atMost 9
  pure (Nat.digitChar digit)

def digits (count : Nat) : Draw σ (List Char) := Draw.times digit count

def mantissa (count : Nat) : Draw σ (List Char) := do
  if ← Draw.coin then
    let whole ← digits count
    if ← Draw.coin then
      if ← Draw.coin then
        let places ← Draw.atMost 31
        let fraction ← digits places
        pure (whole ++ '.' :: fraction)
      else pure (whole ++ ['.'])
    else pure whole
  else
    let fraction ← digits count
    pure ('.' :: fraction)

def exponent : Draw σ (List Char) := do
  if ← Draw.coin then
    let count ← Draw.atMost 31
    let letter ← Draw.either 'e' 'E'
    let sign ← sign
    let digits ← digits (count + 1)
    pure (letter :: sign ++ digits)
  else pure []

-- A clean space follows every number.
def number (config : TokenConfig) (query : Text) : Draw σ Token := do
  let count ← Draw.atMost 31
  let tainted ← Draw.coin
  let separator ← if tainted then separator config.odds query.getLast? else pure empty
  let sign ← sign
  let mantissa ← mantissa (count + 1)
  let exponent ← exponent
  pure (separator ++ uniform tainted (sign ++ mantissa ++ exponent) ++ cell ' ' false)

-- The characters of a word in random cases; noise turns single bits.
def spell (odds : Odds) (tainted : Bool) : List Char → Draw σ Text
  | [] => pure []
  | char :: rest => do
    let noise ← Draw.oneIn odds.booleanNoise
    let char ← Draw.either char.toUpper char
    let rest ← spell odds tainted rest
    pure (⟨char, tainted != noise⟩ :: rest)

def boolean (config : TokenConfig) (query : Text) : Draw σ Token := do
  let tainted ← Draw.coin
  let word ← Draw.either ['t', 'r', 'u', 'e'] ['f', 'a', 'l', 's', 'e']
  let literal ← spell config.odds tainted word
  if literal.taintCount = 0 then pure ⟨literal, .accept⟩
  else if literal.taintCount = literal.length then
    let separator ← separator config.odds query.getLast?
    pure (separator ++ ⟨literal, .accept⟩)
  else pure ⟨literal, .violation "partially tainted boolean"⟩

end QueryTaint.Token
