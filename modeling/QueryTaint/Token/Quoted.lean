import QueryTaint.Token.Character

namespace QueryTaint.Token

variable {σ : Type} [Source σ]

-- A character that opens a string literal; a fault taints it.
def openingCell (odds : Odds) (char : Char) : Draw σ Token := do
  let fault ← Draw.oneIn odds.literalFault
  pure ⟨[⟨char, fault⟩], .given fault "tainted string literal opener"⟩

-- A space keeps the literal apart from a quote at the end of the query: the two quotes would read
-- as one escape.
def openingQuote (odds : Odds) (last : Option Cell) : Draw σ Token := do
  if last.any (·.char = '\'') then
    let space ← openingCell odds ' '
    let quote ← openingCell odds '\''
    pure (space ++ quote)
  else openingCell odds '\''

-- A character of a string literal. A quote is doubled; a fault gives the two different bits.
def literalUnit (odds : Odds) : Draw σ Token := do
  let tainted ← Draw.coin
  let char ← character odds
  if char = '\'' then
    let fault ← Draw.oneIn odds.literalFault
    pure ⟨[⟨'\'', tainted⟩, ⟨'\'', tainted != fault⟩], .given fault "mixed quote escape"⟩
  else
    pure ⟨[⟨char, tainted⟩],
      .given (char = '\x00' && tainted) "tainted null byte in string literal"⟩

def closingQuote (odds : Odds) : Draw σ Token := do
  let fault ← Draw.oneIn odds.literalFault
  pure ⟨[⟨'\'', fault⟩], .given fault "tainted closing quote"⟩

def stringLiteral (config : TokenConfig) (query : Text) : Draw σ Token := do
  let count ← Draw.atMost 255
  let opening ← openingQuote config.odds query.getLast?
  let body ← Draw.times (literalUnit config.odds) count
  let closing ← closingQuote config.odds
  pure (opening ++ join body ++ closing)

-- A character of a quoted identifier. A quote is doubled.
def identifierUnit (odds : Odds) : Draw σ Token := do
  let char ← character odds
  let tainted ← Draw.oneIn odds.identifierTaint
  let cell : Cell := ⟨char, tainted⟩
  pure ⟨if char = '"' then [cell, cell] else [cell], .given tainted "tainted quoted identifier"⟩

-- A clean space follows every quoted identifier.
def quotedIdentifier (config : TokenConfig) : Draw σ Token := do
  let count ← Draw.atMost 63
  let body ← Draw.times (identifierUnit config.odds) count
  pure (cell '"' false ++ join body ++ uniform false ['"', ' '])

end QueryTaint.Token
