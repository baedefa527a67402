import QueryTaint.Token.Character

namespace QueryTaint.Token

variable {σ : Type} [Source σ]

-- At most `bound` characters up to a line end, and a clean line end if they bring none.
def lineBody (odds : Odds) : Nat → Draw σ Token
  | 0 => do
    let ending ← Draw.either '\r' '\n'
    pure (cell ending false)
  | bound + 1 => do
    let tainted ← Draw.coin
    let char ← character odds
    if isLineEnd char then
      pure ⟨[⟨char, tainted⟩], .given tainted "tainted line comment terminator"⟩
    else
      let rest ← lineBody odds bound
      pure (cell char tainted ++ rest)

def lineComment (config : TokenConfig) : Draw σ Token := do
  let bound ← Draw.atMost 63
  let opener ← Draw.either ['-', '-'] ['/', '/']
  let body ← lineBody config.odds (bound + 1)
  pure (uniform false opener ++ body)

def closeLevels (level : Nat) : Token :=
  uniform false (List.replicate level [' ', '*', '/']).flatten

-- At most `bound` characters, fewer if they close the comment, and then what closes it.
def blockBody (odds : Odds) : Nat → Nesting → Draw σ Token
  | 0, nesting => pure (closeLevels nesting.level)
  | bound + 1, nesting => do
    if nesting.isClosed then pure empty
    else
      let tainted ← Draw.coin
      let char ← character odds
      let cell : Cell := ⟨char, tainted⟩
      let rest ← blockBody odds bound (nesting.next cell)
      pure (⟨[cell], .given (nesting.taintedChange cell) "tainted block comment nesting"⟩ ++ rest)

def blockComment (config : TokenConfig) : Draw σ Token := do
  let bound ← Draw.atMost 63
  let body ← blockBody config.odds bound (.opened config.dialect.nestedComments)
  pure (uniform false ['/', '*'] ++ body)

end QueryTaint.Token
