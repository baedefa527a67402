import QueryTaint.Random.Source
import QueryTaint.Token.Config

namespace QueryTaint.Token

-- The printable characters; some of the marks stand in it twice and are drawn twice as often.
def alphabet : List Char :=
  ['a', 'b', 'c', 'd', 'e', 'f', 'g', 'h', 'i', 'j', 'k', 'l', 'm',
    'n', 'o', 'p', 'q', 'r', 's', 't', 'u', 'v', 'w', 'x', 'y', 'z',
    'A', 'B', 'C', 'D', 'E', 'F', 'G', 'H', 'I', 'J', 'K', 'L', 'M',
    'N', 'O', 'P', 'Q', 'R', 'S', 'T', 'U', 'V', 'W', 'X', 'Y', 'Z',
    '0', '1', '2', '3', '4', '5', '6', '7', '8', '9',
    '\x60', '\'', ';', ',', '/', '[', ']', '-', '=', '~', '!', '@', '#', '$', '%', '^', '&', '*',
    '(', ')', '_', '+', '\x7b', '\x7d', ':', '"', '/', ',', '.', '<', '>', '?']

variable {σ : Type} [Source σ]

def letter : Draw σ Char := do
  let index ← Draw.below alphabet.length (by decide)
  pure (alphabet.get index)

def character (odds : Odds) : Draw σ Char := do
  if ← Draw.oneIn odds.null then pure '\x00'
  else if ← Draw.oneIn odds.unicode then Draw.scalar
  else letter

end QueryTaint.Token
