import QueryTaint.Proofs.Token.Literal

namespace QueryTaint.Token

open Scan

-- A literal is an item only if it is tainted.
def literalItems (offset : Nat) (tainted : Bool) (literal : Text) : List Item :=
  if tainted then [⟨.value, offset, offset + literal.length⟩] else []

-- The items, from left to right, of a token that stands at `offset` and is kept.
inductive Yields (offset : Nat) : TokenKind → Text → List Item → Prop where
  | stringLiteral (text : Text) (first : Nat) :
    first ≤ 1 →
      Yields offset .stringLiteral text
        [⟨.stringLiteral, offset + first, offset + text.length⟩]
  | quotedIdentifier (quoted : Text) :
    Yields offset .quotedIdentifier (quoted ++ [⟨' ', false⟩])
      [⟨.quotedIdentifier, offset, offset + quoted.length⟩]
  | number (separator literal : Text) (tainted : Bool) :
    separator = [] ∨ separator = [⟨' ', false⟩] → Number.isLiteral literal.chars = true →
      (∀ cell ∈ literal, cell.tainted = tainted) →
        Yields offset .number (separator ++ literal ++ [⟨' ', false⟩])
          (literalItems (offset + separator.length) tainted literal)
  | lineComment (text : Text) :
    Yields offset .lineComment text [⟨.lineComment, offset, offset + text.length⟩]
  | blockComment (text : Text) :
    Yields offset .blockComment text [⟨.blockComment, offset, offset + text.length⟩]
  | other (text : Text) :
    Yields offset .other text
      (text.taintedRuns.map fun run => ⟨.value, offset + run.start, offset + run.stop⟩)
  | boolean (separator literal : Text) (tainted : Bool) :
    separator = [] ∨ separator = [⟨' ', false⟩] → isBoolean literal.chars = true →
      (∀ cell ∈ literal, cell.tainted = tainted) →
        Yields offset .boolean (separator ++ literal)
          (literalItems (offset + separator.length) tainted literal)

-- Whether the item lies in a text of the given length that stands at `offset`.
def Within (offset length : Nat) (item : Item) : Prop :=
  offset ≤ item.span.start ∧ item.span.stop ≤ offset + length

theorem within_literalItems {offset start length : Nat} {tainted : Bool} {literal : Text}
    (hstart : offset ≤ start) (hstop : start + literal.length ≤ offset + length) :
    ∀ item ∈ literalItems start tainted literal, Within offset length item := by
  intro item hitem
  unfold literalItems at hitem
  split at hitem
  · obtain rfl := List.mem_singleton.mp hitem
    exact ⟨hstart, hstop⟩
  · cases hitem

theorem Yields.within {offset : Nat} {kind : TokenKind} {text : Text} {items : List Item}
    (h : Yields offset kind text items) : ∀ item ∈ items, Within offset text.length item := by
  cases h with
  | stringLiteral _ first hfirst =>
      intro item hitem
      obtain rfl := List.mem_singleton.mp hitem
      exact ⟨Nat.le_add_right .., Nat.le_refl _⟩
  | quotedIdentifier quoted =>
      intro item hitem
      obtain rfl := List.mem_singleton.mp hitem
      exact ⟨Nat.le_refl _, Nat.add_le_add_left (by simp) offset⟩
  | number separator literal tainted _ _ _ =>
      apply within_literalItems (by omega)
      simp only [List.length_append]
      omega
  | lineComment _ =>
      intro item hitem
      obtain rfl := List.mem_singleton.mp hitem
      exact ⟨Nat.le_refl _, Nat.le_refl _⟩
  | blockComment _ =>
      intro item hitem
      obtain rfl := List.mem_singleton.mp hitem
      exact ⟨Nat.le_refl _, Nat.le_refl _⟩
  | other _ =>
      intro item hitem
      obtain ⟨run, hrun, rfl⟩ := List.mem_map.mp hitem
      obtain ⟨-, -, hstop⟩ := Text.bounds_of_mem_taintedRunsFrom text hrun
      constructor <;> simp only <;> omega
  | boolean separator literal tainted _ _ _ =>
      apply within_literalItems (by omega)
      simp only [List.length_append]
      omega

-- The scanner finds the tainted runs where they stand.
theorem values_eq (offset : Nat) (text : Text) :
    values offset text =
      text.taintedRuns.map fun run => ⟨.value, offset + run.start, offset + run.stop⟩ := by
  have hshift := Text.taintedRunsFrom_shift offset 0 text
  rw [Nat.add_zero] at hshift
  rw [values, hshift, List.map_map]
  rfl

theorem values_literal (offset : Nat) {separator literal rest : Text} {tainted : Bool}
    (hseparator : ∀ cell ∈ separator, cell.tainted = false) (hne : literal ≠ [])
    (hliteral : ∀ cell ∈ literal, cell.tainted = tainted)
    (hrest : ∀ cell ∈ rest, cell.tainted = false) :
    values offset (separator ++ (literal ++ rest)) =
      literalItems (offset + separator.length) tainted literal := by
  rw [values, Text.taintedRunsFrom_clean_append offset hseparator]
  cases tainted with
  | true =>
      have hhead : ∀ next ∈ rest.head?, next.tainted = false := fun next hnext =>
        hrest next (List.mem_of_mem_head? hnext)
      rw [Text.taintedRunsFrom_run _ hne hliteral hhead, Text.taintedRunsFrom_of_clean _ hrest]
      rfl
  | false =>
      rw [Text.taintedRunsFrom_clean_append _ hliteral, Text.taintedRunsFrom_of_clean _ hrest]
      rfl

theorem Separator.text_eq {last : Option Cell} {separator : Token} (h : Separator last separator) :
    separator.text = [] ∨ separator.text = [⟨' ', false⟩] := by
  cases h with
  | none _ => exact .inl rfl
  | space _ => exact .inr rfl
  | fault _ => exact .inl rfl

theorem clean_of_separator {separator : Text}
    (h : separator = [] ∨ separator = [⟨' ', false⟩]) :
    ∀ cell ∈ separator, cell.tainted = false := by
  rcases h with rfl | rfl <;> simp

theorem yields_number (offset : Nat) {separator : Text} {tainted : Bool} {literal : List Char}
    (hseparator : separator = [] ∨ separator = [⟨' ', false⟩]) (hliteral : Number.Literal literal) :
    Yields offset .number (separator ++ .uniform tainted literal ++ [⟨' ', false⟩])
      (values offset (separator ++ .uniform tainted literal ++ [⟨' ', false⟩])) := by
  have hchars : Number.isLiteral (Text.uniform tainted literal).chars = true := by
    rw [Text.chars_uniform]
    exact (Number.isLiteral_iff literal).mpr hliteral
  have hne : Text.uniform tainted literal ≠ [] := by
    intro hnil
    rw [hnil] at hchars
    cases hchars
  have huniform : ∀ cell ∈ Text.uniform tainted literal, cell.tainted = tainted := fun cell hcell =>
    Text.tainted_of_mem_uniform hcell
  rw [List.append_assoc, values_literal offset (clean_of_separator hseparator) hne huniform
    (by simp), ← List.append_assoc]
  exact .number separator _ tainted hseparator hchars huniform

theorem Numeral.yields {last : Option Cell} {token : Token} (h : Numeral last token)
    (offset : Nat) : Yields offset .number token.text (values offset token.text) := by
  cases h with
  | clean literal hliteral => exact yields_number offset (.inl rfl) hliteral
  | tainted separator literal hseparator hliteral =>
      exact yields_number offset hseparator.text_eq hliteral

theorem yields_boolean (offset : Nat) {separator literal : Text} {tainted : Bool}
    (hseparator : separator = [] ∨ separator = [⟨' ', false⟩])
    (hboolean : isBoolean literal.chars = true)
    (huniform : ∀ cell ∈ literal, cell.tainted = tainted) :
    Yields offset .boolean (separator ++ literal) (values offset (separator ++ literal)) := by
  have hempty : ∀ cell ∈ ([] : Text), cell.tainted = false := by simp
  have hvalues := values_literal offset (clean_of_separator hseparator)
    (ne_nil_of_isBoolean hboolean) huniform hempty
  rw [List.append_nil] at hvalues
  rw [hvalues]
  exact .boolean separator literal tainted hseparator hboolean huniform

-- A truth value with some of its bits set is never kept.
theorem TruthValue.yields {last : Option Cell} {token : Token} (h : TruthValue last token)
    (haccept : token.expectation = .accept) (offset : Nat) :
    Yields offset .boolean token.text (values offset token.text) := by
  cases h with
  | clean literal hboolean hclean => exact yields_boolean offset (.inl rfl) hboolean hclean
  | tainted separator literal hseparator hboolean htainted =>
      exact yields_boolean offset hseparator.text_eq hboolean htainted
  | mixed literal _ _ _ => cases haccept

end QueryTaint.Token
