import QueryTaint.Token.Character

namespace QueryTaint

-- A draw that may not end.
abbrev Search (σ : Type) := StateT σ Option

def Draw.search {σ α : Type} (draw : Draw σ α) : Search σ α := fun source => some (draw source)

namespace Token

-- Whether a character may not follow the text, which itself follows the cell `before`.
def refuses (before : Option Cell) (text : Text) (char : Char) : Bool :=
  char = '\'' || char = '"' ||
    (char = 'e' || char = 'E') &&
      (text.endsWithIgnoringCase ['t', 'r', 'u'] ||
        text.endsWithIgnoringCase ['f', 'a', 'l', 's']) ||
    formsDelimiter (((text.getLast?.or before).map Cell.char).getD ' ') char

-- What the validator makes of a free-form token after a query: every tainted run of the token has
-- to be a value.
def predict (query token : Text) : Expectation :=
  if token.isTainted then
    match (query ++ token).checkRuns query.length with
    | .ok () => .accept
    | .error violation => .violation violation.kind.name
  else .accept

-- Text that ends in a tainted or guarded character gets a clean space.
def guarded (guard : Guard) (text : Text) : Text :=
  if text.getLast?.any (fun last => last.tainted || guard.requires last.char) then
    text ++ [⟨' ', false⟩]
  else text

variable {σ : Type} [Source σ]

-- Refused characters are drawn again, and nothing bounds how often.
def acceptable (odds : Odds) (before : Option Cell) (text : Text) : Nat → Search σ Cell
  | 0 => failure
  | fuel + 1 => do
    let tainted ← (Draw.oneIn odds.otherTaint).search
    let char ← (character odds).search
    if refuses before text char then acceptable odds before text fuel
    else pure ⟨char, tainted⟩

-- Lengthens the text by `count` characters.
def lengthen (fuel : Nat) (odds : Odds) (before : Option Cell) : Nat → Text → Search σ Text
  | 0, text => pure text
  | count + 1, text => do
    let cell ← acceptable odds before text fuel
    lengthen fuel odds before count (text ++ [cell])

def freeForm (fuel : Nat) (config : TokenConfig) (query : Text) : Search σ Token := do
  let count ← (Draw.atMost 63).search
  let text ← lengthen fuel config.odds query.getLast? (count + 1) []
  let text := guarded config.guard text
  pure ⟨text, predict query text⟩

end Token

end QueryTaint
