import QueryTaint.Proofs.Random.Draws
import QueryTaint.Proofs.Scan.Plain

namespace QueryTaint

open Scan

-- Which violations the cause of an expected one names, for a token that begins at `start`.
inductive Foretells (start : Nat) : TokenKind → String → Violation → Prop where
  | opener (found : Violation) :
    found.kind = .invalidValue ∨ found.kind = .unseparatedValue →
      Foretells start .stringLiteral "tainted string literal opener" found
  | mixedQuoteEscape (offset : Nat) :
    Foretells start .stringLiteral "mixed quote escape" ⟨.mixedQuoteEscape, offset⟩
  | nullByte (offset : Nat) :
    Foretells start .stringLiteral "tainted null byte in string literal" ⟨.nullByte, offset⟩
  | closingQuote (offset : Nat) :
    Foretells start .stringLiteral "tainted closing quote" ⟨.closingQuote, offset⟩
  | identifier (offset : Nat) :
    Foretells start .quotedIdentifier "tainted quoted identifier" ⟨.identifier, offset⟩
  | lineTerminator (offset : Nat) :
    Foretells start .lineComment "tainted line comment terminator" ⟨.lineTerminator, offset⟩
  | nesting (offset : Nat) :
    Foretells start .blockComment "tainted block comment nesting" ⟨.nesting, offset⟩
  | unseparated (kind : TokenKind) :
    kind = .number ∨ kind = .boolean →
      Foretells start kind "unseparated tainted value" ⟨.unseparatedValue, start⟩
  | mixedBoolean (found : Violation) :
    found.kind = .invalidValue ∨ found.kind = .unseparatedValue →
      Foretells start .boolean "partially tainted boolean" found
  | freeForm (found : Violation) : Foretells start .other found.kind.name found

-- A tainted run that goes on, or two quotes that make an escape.
def Fuses (last : Option Cell) (rest : Text) : Prop :=
  ∃ left ∈ last, ∃ right ∈ rest.head?,
    left.tainted = true ∧ right.tainted = true ∨ left.char = '\'' ∧ right.char = '\''

theorem not_fuses_nil (last : Option Cell) : ¬Fuses last [] := by
  rintro ⟨_, _, _, hright, _⟩
  cases hright

theorem Expectation.both_accept (expectation : Expectation) :
    expectation.both .accept = expectation := by
  cases expectation <;> rfl

namespace Token

theorem append_accepts_iff (left right : Token) :
    (left ++ right).expectation = .accept ↔
      left.expectation = .accept ∧ right.expectation = .accept := by
  rw [expectation_append]
  cases left.expectation <;> simp [Expectation.both]

variable (dialect : Dialect) (kind : TokenKind) (start : Nat)

-- The scanner takes the token, with `rest` after it, as expected: from the one state to the other,
-- or to a violation.
def Leads (rest : Text) (state : State) (token : Token) (after : State) : Prop :=
  match token.expectation with
  | .accept => complete dialect state (token.text ++ rest) = complete dialect after rest
  | .violation cause =>
    ∃ found, complete dialect state (token.text ++ rest) = .error (.violation found) ∧
      Foretells start kind cause found

variable {dialect kind start}

-- The second piece counts only if the first one passes.
theorem Leads.append {left right : Token} {rest : Text} {state middle after : State}
    (hleft : Leads dialect kind start (right.text ++ rest) state left middle)
    (hright : left.expectation = .accept → Leads dialect kind start rest middle right after) :
    Leads dialect kind start rest state (left ++ right) after := by
  unfold Leads at *
  rw [text_append, expectation_append, List.append_assoc]
  cases hexpected : left.expectation with
  | accept =>
      rw [hexpected] at hleft
      simp only [Expectation.both]
      rw [hleft]
      exact hright hexpected
  | violation cause =>
      rw [hexpected] at hleft
      exact hleft

-- Where the token does not pass, it does not matter where it would lead.
theorem Leads.congr {token : Token} {rest : Text} {state after other : State}
    (h : Leads dialect kind start rest state token after)
    (hafter : token.expectation = .accept → after = other) :
    Leads dialect kind start rest state token other := by
  unfold Leads at *
  cases hexpected : token.expectation with
  | accept =>
      rw [hexpected] at h
      rw [← hafter hexpected]
      exact h
  | violation cause =>
      rw [hexpected] at h
      exact h

theorem leads_empty (rest : Text) (state : State) :
    Leads dialect kind start rest state empty state := rfl

-- Pieces that each lead from a state to the same state further on do so together.
theorem leads_join {state : Nat → State} {pieces : List Token}
    (h : ∀ piece ∈ pieces, ∀ offset rest,
      Leads dialect kind start rest (state offset) piece (state (offset + piece.text.length)))
    (offset : Nat) (rest : Text) :
    Leads dialect kind start rest (state offset) (join pieces)
      (state (offset + (join pieces).text.length)) := by
  induction pieces generalizing offset with
  | nil => exact leads_empty rest _
  | cons piece pieces ih =>
      have hfirst := h piece (by simp) offset ((join pieces).text ++ rest)
      have hmore := ih (fun other hother => h other (List.mem_cons_of_mem _ hother))
        (offset + piece.text.length)
      have hlength : (join (piece :: pieces)).text.length =
          piece.text.length + (join pieces).text.length := List.length_append
      rw [hlength, ← Nat.add_assoc]
      exact hfirst.append fun _ => hmore

variable (dialect)

-- A tainted run at the end of a token that passes is complete: it is no value if it goes on.
def Sealed (before : Option Cell) (offset : Nat) (token : Token) : Prop :=
  token.expectation = .accept → ∀ last ∈ token.text.getLast?, last.tainted = true →
    ∃ left run, token.text = left ++ run ∧ run ≠ [] ∧ (∀ cell ∈ run, cell.tainted = true) ∧
      (∀ cell ∈ left.getLast?.or before, cell.tainted = false) ∧
      ∀ items next rest, next.tainted = true →
        complete dialect ⟨offset, .code (separates before), items⟩ (token.text ++ next :: rest) =
          .error (.violation ⟨.invalidValue, offset + left.length⟩)

theorem sealed_of_clean {before : Option Cell} {offset : Nat} {token : Token}
    (hclean : token.expectation = .accept → ∀ last ∈ token.text.getLast?, last.tainted = false) :
    Sealed dialect before offset token := by
  intro haccept last hlast htainted
  rw [hclean haccept last hlast] at htainted
  cases htainted

variable (kind)

-- A token after the cell `before`, at the position `offset`. Where it passes, the scanner has found
-- the items, latest first, and is outside of every item.
structure Fits (before : Option Cell) (offset : Nat) (token : Token) (found : List Item) :
    Prop where
  ne_nil : token.text ≠ []
  apart : ∀ left ∈ before, left.char = '\'' → ∀ right ∈ token.text.head?, right.char ≠ '\''
  leads : ∀ items rest, ¬Fuses token.text.getLast? rest →
    Leads dialect kind offset rest ⟨offset, .code (separates before), items⟩ token
      ⟨offset + token.text.length, .code (separates token.text.getLast?), found ++ items⟩
  sealed : Sealed dialect before offset token

-- The verdict on the tainted runs of the token is the expected one.
def Judged (before : Option Cell) (offset : Nat) (token : Token) : Prop :=
  match token.expectation with
  | .accept => token.text.checkRunsAfter before offset = .ok ()
  | .violation cause =>
    ∃ found, token.text.checkRunsAfter before offset = .error found ∧
      Foretells offset kind cause found

-- A token in which nothing opens is as good as the verdict on its tainted runs.
theorem fits_of_judged {before : Option Cell} {offset : Nat} {token : Token}
    (hne : token.text ≠ [])
    (hapart : ∀ right ∈ token.text.head?, right.char ≠ '\'') (hplain : Plain token.text)
    (hlast : ∀ last ∈ token.text.getLast?, last.tainted = false → last.char ≠ '-' ∧ last.char ≠ '/')
    (hjudged : Judged kind before offset token) (hsealed : Sealed dialect before offset token) :
    Fits dialect kind before offset token (values offset token.text).reverse := by
  refine ⟨hne, fun _ _ _ => hapart, ?_, hsealed⟩
  intro items rest hfuses
  have hended : Ended token.text rest := by
    intro last hmem next hnext
    cases htainted : last.tainted with
    | false =>
        obtain ⟨hhyphen, hslash⟩ := hlast last hmem htainted
        simp [opensComment, hhyphen, hslash]
    | true =>
        rw [if_pos rfl, Bool.eq_false_iff]
        intro hboth
        exact hfuses ⟨last, hmem, next, hnext, .inl ⟨htainted, hboth⟩⟩
  have hor : token.text.getLast?.or before = token.text.getLast? := by
    rw [List.getLast?_eq_some_getLast hne]
    rfl
  have hcomplete := complete_plainText dialect before offset items token.text rest hplain hended
  rw [hor] at hcomplete
  unfold Judged at hjudged
  unfold Leads
  cases hexpected : token.expectation with
  | accept =>
      rw [hexpected] at hjudged
      rw [hjudged] at hcomplete
      exact hcomplete
  | violation cause =>
      rw [hexpected] at hjudged
      obtain ⟨found, hfound, hforetells⟩ := hjudged
      rw [hfound] at hcomplete
      exact ⟨found, hcomplete, hforetells⟩

end Token

end QueryTaint
