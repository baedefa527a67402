import QueryTaint.Proofs.Token.Literal
import QueryTaint.Token.Generator

namespace QueryTaint.Token

-- The query has an end, and no tainted value may follow it.
def Unfinished (query : Text) : Prop := ∃ last ∈ query.getLast?, last.isBoundary = false

-- How the separator before a literal and what is expected go with the bits of the literal.
structure Weighed (query separator literal : Text) (expectation : Expectation) : Prop where
  separator_eq : separator = [] ∨ separator = [⟨' ', false⟩]
  needed : separator = [⟨' ', false⟩] →
    (∀ cell ∈ literal, cell.tainted = true) ∧ Unfinished query
  isViolation_iff : expectation.isViolation = true ↔
    isBoolean literal.chars = true ∧ (∃ cell ∈ literal, cell.tainted = true) ∧
        (∃ cell ∈ literal, cell.tainted = false) ∨
      (∀ cell ∈ literal, cell.tainted = true) ∧ Unfinished query ∧ separator = []

variable {query literal : Text}

theorem separates_iff (query : Text) : separates query.getLast? = false ↔ Unfinished query := by
  unfold Unfinished
  cases query.getLast? with
  | none => simp [separates]
  | some last => simp [separates]

theorem weighed_clean (hne : literal ≠ []) (hclean : ∀ cell ∈ literal, cell.tainted = false) :
    Weighed query [] literal .accept := by
  obtain ⟨first, hfirst⟩ := List.exists_mem_of_ne_nil literal hne
  refine ⟨.inl rfl, nofun, iff_of_false nofun ?_⟩
  rintro (⟨-, ⟨cell, hcell, htainted⟩, -⟩ | ⟨hall, -⟩)
  · rw [hclean cell hcell] at htainted
    cases htainted
  · have htainted := hall first hfirst
    rw [hclean first hfirst] at htainted
    cases htainted

theorem weighed_mixed (h : isBoolean literal.chars = true)
    (hsome : ∃ cell ∈ literal, cell.tainted = true)
    (hnotAll : ¬∀ cell ∈ literal, cell.tainted = true) (cause : String) :
    Weighed query [] literal (.violation cause) := by
  have hother : ∃ cell ∈ literal, cell.tainted = false := by simpa using hnotAll
  exact ⟨.inl rfl, nofun, iff_of_true rfl (.inl ⟨h, hsome, hother⟩)⟩

theorem Separator.weighed {separator : Token} (h : Separator query.getLast? separator)
    (htainted : ∀ cell ∈ literal, cell.tainted = true) :
    Weighed query separator.text literal separator.expectation := by
  have hnotMixed : ¬∃ cell ∈ literal, cell.tainted = false := by simpa using htainted
  cases h with
  | none hseparates =>
      refine ⟨.inl rfl, nofun, iff_of_false nofun ?_⟩
      rintro (⟨-, -, hmixed⟩ | ⟨-, hunfinished, -⟩)
      · exact hnotMixed hmixed
      · rw [← separates_iff, hseparates] at hunfinished
        cases hunfinished
  | space hseparates =>
      refine ⟨.inr rfl, fun _ => ⟨htainted, (separates_iff query).mp hseparates⟩,
        iff_of_false nofun ?_⟩
      rintro (⟨-, -, hmixed⟩ | ⟨-, -, hnone⟩)
      · exact hnotMixed hmixed
      · cases hnone
  | fault hseparates =>
      exact ⟨.inl rfl, nofun,
        iff_of_true rfl (.inr ⟨htainted, (separates_iff query).mp hseparates, rfl⟩)⟩

theorem Numeral.weighed {token : Token} (h : Numeral query.getLast? token) :
    ∃ separator literal, token.text = separator ++ literal ++ [⟨' ', false⟩] ∧
      Number.isLiteral literal.chars = true ∧
      (∃ tainted, ∀ cell ∈ literal, cell.tainted = tainted) ∧
      Weighed query separator literal token.expectation := by
  have huniform : ∀ {tainted : Bool} {literal : List Char}, Number.Literal literal →
      Number.isLiteral (Text.uniform tainted literal).chars = true := by
    intro tainted literal hliteral
    rw [Text.chars_uniform]
    exact (Number.isLiteral_iff literal).mpr hliteral
  cases h with
  | clean literal hliteral =>
      have hne : Text.uniform false literal ≠ [] := by
        obtain ⟨char, hchar, -⟩ := hliteral.exists_digit
        simpa [Text.uniform] using List.ne_nil_of_mem hchar
      exact ⟨[], .uniform false literal, rfl, huniform hliteral,
        ⟨false, fun _ => Text.tainted_of_mem_uniform⟩,
        weighed_clean hne fun _ => Text.tainted_of_mem_uniform⟩
  | tainted separator literal hseparator hliteral =>
      refine ⟨separator.text, .uniform true literal, rfl, huniform hliteral,
        ⟨true, fun _ => Text.tainted_of_mem_uniform⟩, ?_⟩
      rw [expectation_between]
      exact hseparator.weighed fun _ => Text.tainted_of_mem_uniform

theorem TruthValue.weighed {token : Token} (h : TruthValue query.getLast? token) :
    ∃ separator literal, token.text = separator ++ literal ∧ isBoolean literal.chars = true ∧
      Weighed query separator literal token.expectation := by
  cases h with
  | clean literal hboolean hclean =>
      exact ⟨[], literal, rfl, hboolean, weighed_clean (ne_nil_of_isBoolean hboolean) hclean⟩
  | tainted separator literal hseparator hboolean htainted =>
      refine ⟨separator.text, literal, rfl, hboolean, ?_⟩
      rw [expectation_append, Expectation.both_accept]
      exact hseparator.weighed htainted
  | mixed literal hboolean hsome hnotAll =>
      exact ⟨[], literal, rfl, hboolean, weighed_mixed hboolean hsome hnotAll _⟩

variable {σ : Type} [Source σ]

-- A number is a literal of one bit between what separates it and a clean space, a truth value is
-- one with nothing after it, and both are drawn whatever the source gives.
theorem valueToken_weighed (fuel : Nat) (config : TokenConfig) (query : Text) (source : σ) :
    (∃ token after, generate fuel config query .number source = some (token, after) ∧
      ∃ separator literal, token.text = separator ++ literal ++ [⟨' ', false⟩] ∧
        Number.isLiteral literal.chars = true ∧
        (∃ tainted, ∀ cell ∈ literal, cell.tainted = tainted) ∧
        Weighed query separator literal token.expectation) ∧
      ∃ token after, generate fuel config query .boolean source = some (token, after) ∧
        ∃ separator literal, token.text = separator ++ literal ∧
          isBoolean literal.chars = true ∧ Weighed query separator literal token.expectation := by
  constructor
  · exact ⟨(number config query source).1, (number config query source).2, rfl,
      (number_always config query source).weighed⟩
  · exact ⟨(boolean config query source).1, (boolean config query source).2, rfl,
      (boolean_always config query source).weighed⟩

end QueryTaint.Token
