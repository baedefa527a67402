import QueryTaint.Proofs.Token.FreeForm
import QueryTaint.Proofs.Campaign.Oracle
import QueryTaint.Token.Generator

namespace QueryTaint.Token

variable {first second : Text}

-- The place of the text moves the offset of a violation, and the prediction only names its kind.
theorem predict_eq_unplaced (query text : Text) :
    predict query text =
      match text.checkRunsAfter query.getLast? 0 with
      | .ok () => .accept
      | .error found => .violation found.kind.name := by
  have hshift := Text.checkRunsAfter_shift query.getLast? query.length 0 text
  rw [Nat.add_zero] at hshift
  rw [predict_eq, hshift]
  cases text.checkRunsAfter query.getLast? 0 <;> rfl

theorem predict_of_last (h : first.getLast? = second.getLast?) (text : Text) :
    predict first text = predict second text := by
  rw [predict_eq_unplaced, predict_eq_unplaced, h]

variable {σ : Type} [Source σ]

theorem freeForm_of_last (h : first.getLast? = second.getLast?) (fuel : Nat)
    (config : TokenConfig) :
    (freeForm fuel config first : Search σ Token) = freeForm fuel config second := by
  unfold freeForm
  simp only [h, predict_of_last h]

theorem stringLiteral_of_last (h : first.getLast? = second.getLast?) (config : TokenConfig) :
    (stringLiteral config first : Draw σ Token) = stringLiteral config second := by
  unfold stringLiteral
  rw [h]

theorem number_of_last (h : first.getLast? = second.getLast?) (config : TokenConfig) :
    (number config first : Draw σ Token) = number config second := by
  unfold number
  rw [h]

theorem boolean_of_last (h : first.getLast? = second.getLast?) (config : TokenConfig) :
    (boolean config first : Draw σ Token) = boolean config second := by
  unfold boolean
  rw [h]

-- After two queries that end alike the same token is made: its text, its bits, what is expected of
-- the validator and what is left of the source are the same.
theorem generate_of_last (fuel : Nat) (config : TokenConfig) (kind : TokenKind) (source : σ)
    (h : first.getLast? = second.getLast?) :
    generate fuel config first kind source = generate fuel config second kind source := by
  cases kind with
  | stringLiteral =>
      unfold generate
      rw [stringLiteral_of_last h config]
  | number =>
      unfold generate
      rw [number_of_last h config]
  | boolean =>
      unfold generate
      rw [boolean_of_last h config]
  | other =>
      unfold generate
      rw [freeForm_of_last h fuel config]
  -- These do not see the query at all.
  | quotedIdentifier | lineComment | blockComment => rfl

-- A digit after a letter, which may be all of the query or stand behind a literal.
theorem generate_of_last_letter :
    let alone : Text := .uniform false ['x']
    let behind : Text := .uniform false ['\''] ++ .uniform true ['-', '-'] ++
      .uniform false ['\'', ' ', 'x']
    let token : Token := ⟨.uniform true ['7'] ++ .uniform false [' '],
      .violation "unseparated_tainted_value"⟩
    alone.getLast? = behind.getLast? ∧
      generate 1 .default alone .other [0, 0, 1, 59] = some (token, ([] : List Nat)) ∧
      generate 1 .default behind .other [0, 0, 1, 59] = some (token, ([] : List Nat)) := by
  intro alone behind token
  have hlast : alone.getLast? = behind.getLast? := rfl
  have halone : generate 1 .default alone .other [0, 0, 1, 59] =
      some (token, ([] : List Nat)) := by
    decide +kernel
  exact ⟨hlast, halone, (generate_of_last 1 .default .other [0, 0, 1, 59] hlast).symm.trans halone⟩

end QueryTaint.Token
