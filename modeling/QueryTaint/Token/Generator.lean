import QueryTaint.Token.Literal
import QueryTaint.Token.Quoted
import QueryTaint.Token.Comment
import QueryTaint.Token.FreeForm

namespace QueryTaint

-- A token of the given kind to follow the query.
def Token.generate {σ : Type} [Source σ] (fuel : Nat) (config : TokenConfig) (query : Text) :
    TokenKind → Search σ Token
  | .stringLiteral => (stringLiteral config query).search
  | .quotedIdentifier => (quotedIdentifier config).search
  | .number => (number config query).search
  | .lineComment => (lineComment config).search
  | .blockComment => (blockComment config).search
  | .other => freeForm fuel config query
  | .boolean => (boolean config query).search

-- A configuration with something to choose from.
structure Generator where
  config : TokenConfig
  kinds_ne_nil : config.kinds ≠ []

namespace Generator

def ofConfig (config : TokenConfig) : Except ConfigError Generator :=
  if h : config.kinds = [] then .error .noTokenKinds else .ok ⟨config, h⟩

variable {σ : Type} [Source σ]

def choose (generator : Generator) : Draw σ TokenKind := do
  let kinds := generator.config.kinds
  let index ← Draw.below kinds.length (List.length_pos_iff.mpr generator.kinds_ne_nil)
  pure (kinds.get index)

def generate (generator : Generator) (fuel : Nat) (query : Text) :
    Search σ (TokenKind × Token) := do
  let kind ← generator.choose.search
  let token ← Token.generate fuel generator.config query kind
  pure (kind, token)

end Generator

end QueryTaint
