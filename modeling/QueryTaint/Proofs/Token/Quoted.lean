import QueryTaint.Token.Quoted
import QueryTaint.Proofs.Lexis.Value
import QueryTaint.Proofs.Token.Forecast

namespace QueryTaint.Token

open Scan

variable {σ : Type} [Source σ] (dialect : Dialect)

-- A run that begins with a character of no value cannot be saved.
theorem complete_faultyOpening (offset : Nat) (separated : Bool) (items : List Item) {char : Char}
    (hchar : ∀ more, isValue (char :: more) = false) (rest : Text) :
    ∃ found, complete dialect ⟨offset, .code separated, items⟩ (⟨char, true⟩ :: rest) =
        .error (.violation found) ∧
      (found.kind = .invalidValue ∨ found.kind = .unseparatedValue) := by
  have hdoomed : Doomed separated [char] := by
    intro more hnone
    obtain ⟨-, hvalue⟩ := (valueFault?_eq_none_iff ..).mp hnone
    simp [hchar] at hvalue
  obtain ⟨kind, hkind, hcomplete⟩ :=
    complete_doomed dialect (offset + 1) offset separated [char] items hdoomed rest
  refine ⟨⟨kind, offset⟩, ?_, hkind⟩
  rw [complete_cons]
  simpa [step, outside] using hcomplete

theorem not_isValue_quote (more : List Char) : isValue ('\'' :: more) = false := by
  rw [Bool.eq_false_iff]
  intro h
  exact (isValue_mem h (List.mem_cons_self ..)).1 rfl

theorem not_isValue_space (more : List Char) : isValue (' ' :: more) = false := by
  rw [Bool.eq_false_iff]
  intro h
  exact (isValue_mem h (List.mem_cons_self ..)).2.2.2.2 rfl

-- A piece of one cell, before the literal or at the beginning of it.
theorem openingCell_leads (odds : Odds) {char : Char}
    (hchar : ∀ more, isValue (char :: more) = false) (after : Nat → List Item → State)
    (hopens : ∀ offset separated items rest,
      complete dialect ⟨offset, .code separated, items⟩ (⟨char, false⟩ :: rest) =
        complete dialect (after offset items) rest) :
    (openingCell odds char : Draw σ Token).Always fun piece =>
      ∃ fault, piece.text = [⟨char, fault⟩] ∧ ∀ start offset separated items rest,
        Leads dialect .stringLiteral start rest ⟨offset, .code separated, items⟩ piece
          (after offset items) := by
  refine Draw.always_after fun fault => Draw.always_pure ⟨fault, rfl, ?_⟩
  intro start offset separated items rest
  cases fault with
  | false => exact hopens offset separated items rest
  | true =>
      obtain ⟨found, hfound, hkind⟩ :=
        complete_faultyOpening dialect offset separated items hchar rest
      exact ⟨found, hfound, .opener found hkind⟩

theorem openingQuote_leads (odds : Odds) (last : Option Cell) :
    (openingQuote odds last : Draw σ Token).Always fun piece =>
      1 ≤ piece.text.length ∧ piece.text.length ≤ 2 ∧
      (∀ left ∈ last, left.char = '\'' → ∀ right ∈ piece.text.head?, right.char ≠ '\'') ∧
      ∀ start offset separated items rest,
        Leads dialect .stringLiteral start rest ⟨offset, .code separated, items⟩ piece
          ⟨offset + piece.text.length, .literal (offset + (piece.text.length - 1)), items⟩ := by
  have hquote : (openingCell odds '\'' : Draw σ Token).Always _ :=
    openingCell_leads dialect odds not_isValue_quote
      (fun offset items => ⟨offset + 1, .literal offset, items⟩)
      (complete_openLiteral dialect)
  have hspace : (openingCell odds ' ' : Draw σ Token).Always _ :=
    openingCell_leads dialect odds not_isValue_space
      (fun offset items => ⟨offset + 1, .code true, items⟩)
      fun offset separated items rest => complete_plain dialect offset separated items ⟨' ', false⟩
        rest rfl (by decide) (by decide) (by simp [opensComment])
  refine Draw.always_ite ?_ ?_
  · intro _
    refine Draw.always_bind hspace fun space hspace => Draw.always_bind hquote fun quote hquote =>
      Draw.always_pure ?_
    obtain ⟨fault, htext, hleads⟩ := hspace
    obtain ⟨other, hquoteText, hquoteLeads⟩ := hquote
    refine ⟨by simp [htext, hquoteText], by simp [htext, hquoteText], by simp [htext], ?_⟩
    intro start offset separated items rest
    have hboth := (hleads start offset separated items _).append fun _ =>
      hquoteLeads start (offset + 1) true items rest
    simpa [htext, hquoteText] using hboth
  · intro hlast
    refine hquote.mono fun quote hquote => ?_
    obtain ⟨fault, htext, hleads⟩ := hquote
    refine ⟨by simp [htext], by simp [htext], ?_, ?_⟩
    · intro left hleft hchar
      simp [Option.mem_def.mp hleft, hchar] at hlast
    · intro start offset separated items rest
      simpa [htext] using hleads start offset separated items rest

theorem literalUnit_leads (odds : Odds) :
    (literalUnit odds : Draw σ Token).Always fun unit => ∀ start first items offset rest,
      Leads dialect .stringLiteral start rest ⟨offset, .literal first, items⟩ unit
        ⟨offset + unit.text.length, .literal first, items⟩ := by
  refine Draw.always_after fun tainted => Draw.always_after fun char => Draw.always_ite ?_ ?_
  · intro _
    refine Draw.always_after fun fault => Draw.always_pure ?_
    intro start first items offset rest
    cases fault with
    | false =>
        rw [Bool.bne_false]
        exact complete_literalPair dialect offset first items tainted rest
    | true =>
        refine ⟨_, ?_, .mixedQuoteEscape offset⟩
        simp [complete_cons, step, violation]
  · intro hquote
    refine Draw.always_pure ?_
    intro start first items offset rest
    by_cases hnull : char = '\x00' ∧ tainted = true
    · obtain ⟨rfl, rfl⟩ := hnull
      refine ⟨_, ?_, .nullByte offset⟩
      simp [complete_cons, step, violation]
    · have hfault : Expectation.given (char = '\x00' && tainted)
          "tainted null byte in string literal" = .accept := by
        have hnone : (decide (char = '\x00') && tainted) = false := by simpa using hnull
        rw [hnone]
        rfl
      unfold Leads
      simp only [hfault]
      exact complete_literalChar dialect offset first items ⟨char, tainted⟩ rest hquote hnull

theorem closingQuote_leads (odds : Odds) :
    (closingQuote odds : Draw σ Token).Always fun piece =>
      ∃ fault, piece.text = [⟨'\'', fault⟩] ∧ (piece.expectation = .accept → fault = false) ∧
        ∀ start first items offset rest, ¬Fuses piece.text.getLast? rest →
          Leads dialect .stringLiteral start rest ⟨offset, .literal first, items⟩ piece
            ⟨offset + 1, .code false, ⟨.stringLiteral, first, offset + 1⟩ :: items⟩ := by
  refine Draw.always_after fun fault => Draw.always_pure ⟨fault, rfl, ?_, ?_⟩
  · intro haccept
    cases fault with
    | false => rfl
    | true => cases haccept
  · intro start first items offset rest hfuses
    have hhead : ∀ next ∈ rest.head?, next.char ≠ '\'' := by
      intro next hnext hquote
      exact hfuses ⟨_, rfl, next, hnext, .inr ⟨rfl, hquote⟩⟩
    cases fault with
    | false => exact complete_closeLiteral dialect offset first items rest hhead
    | true =>
        refine ⟨⟨.closingQuote, offset⟩, ?_, .closingQuote offset⟩
        cases rest with
        | nil => rfl
        | cons next rest =>
            simp [complete_cons, step, hhead next rfl, closeLiteral, violation]

theorem stringLiteral_fits (config : TokenConfig) (query : Text) :
    (stringLiteral config query : Draw σ Token).Always fun token =>
      ∃ first, first ≤ 1 ∧ Fits config.dialect .stringLiteral query.getLast? query.length token
        [⟨.stringLiteral, query.length + first, query.length + token.text.length⟩] := by
  refine Draw.always_after fun count => ?_
  refine Draw.always_bind (openingQuote_leads config.dialect config.odds _)
    fun opening hopening => ?_
  refine Draw.always_bind (Draw.always_times (literalUnit_leads config.dialect config.odds) _)
    fun body hbody => ?_
  refine Draw.always_bind (closingQuote_leads config.dialect config.odds) fun closing hclosing =>
    Draw.always_pure ?_
  obtain ⟨hpos, hshort, hapart, hopens⟩ := hopening
  obtain ⟨fault, htext, haccepts, hcloses⟩ := hclosing
  have hlast : (opening ++ join body ++ closing).text.getLast? = some ⟨'\'', fault⟩ := by
    simp [htext]
  have hlength : (opening ++ join body ++ closing).text.length =
      opening.text.length + (join body).text.length + 1 := by
    simp [htext, Nat.add_assoc]
  refine ⟨opening.text.length - 1, by omega, ?_, ?_, ?_, ?_⟩
  · simp [htext]
  · intro left hleft hquote right hright
    refine hapart left hleft hquote right ?_
    obtain ⟨first, more, hfirst⟩ := List.exists_cons_of_length_pos hpos
    simpa [hfirst] using hright
  · intro items rest hfuses
    rw [hlast] at hfuses
    have hseparates : separates (some ⟨'\'', fault⟩) = false := by cases fault <;> rfl
    have hopen := hopens query.length query.length (separates query.getLast?) items
      ((join body).text ++ (closing.text ++ rest))
    have hbody := leads_join
      (fun unit hunit => hbody.2 unit hunit query.length
        (query.length + (opening.text.length - 1)) items)
      (query.length + opening.text.length) (closing.text ++ rest)
    have hclosingFuses : ¬Fuses closing.text.getLast? rest := by simpa [htext] using hfuses
    have hclose := hcloses query.length (query.length + (opening.text.length - 1)) items
      (query.length + opening.text.length + (join body).text.length) rest hclosingFuses
    have hall := (Leads.append (by simpa using hopen) fun _ => hbody).append fun _ => hclose
    rw [hlast, hseparates, hlength]
    simpa [Nat.add_assoc] using hall
  · refine sealed_of_clean config.dialect fun haccept last hmem => ?_
    obtain rfl : _ = last := Option.some.inj (hlast.symm.trans hmem)
    exact haccepts ((append_accepts_iff _ _).mp haccept).2

theorem identifierUnit_leads (odds : Odds) :
    (identifierUnit odds : Draw σ Token).Always fun unit => ∀ start first items offset rest,
      Leads dialect .quotedIdentifier start rest ⟨offset, .identifier first, items⟩ unit
        ⟨offset + unit.text.length, .identifier first, items⟩ := by
  refine Draw.always_after fun char => Draw.always_after fun tainted => Draw.always_pure ?_
  intro start first items offset rest
  cases tainted with
  | true =>
      refine ⟨_, ?_, .identifier offset⟩
      by_cases hquote : char = '"' <;> simp [hquote, complete_cons, step, violation]
  | false =>
      by_cases hquote : char = '"'
      · subst hquote
        exact complete_identifierPair dialect offset first items rest
      · simp only [hquote, if_false]
        exact complete_identifierChar dialect offset first items ⟨char, false⟩ rest rfl hquote

theorem identifierEnd_leads (start first offset : Nat) (items : List Item) (rest : Text) :
    Leads dialect .quotedIdentifier start rest ⟨offset, .identifier first, items⟩
      (uniform false ['"', ' '])
      ⟨offset + 2, .code true, ⟨.quotedIdentifier, first, offset + 1⟩ :: items⟩ := by
  change complete _ _ (⟨'"', false⟩ :: ⟨' ', false⟩ :: rest) = _
  rw [complete_closeIdentifier dialect _ _ _ _ (by simp),
    complete_plain dialect _ _ _ _ _ rfl (by decide) (by decide) (by simp [opensComment])]
  rfl

theorem quotedIdentifier_fits (config : TokenConfig) (before : Option Cell) (offset : Nat) :
    (quotedIdentifier config : Draw σ Token).Always fun token =>
      ∃ quoted, token.text = quoted ++ [⟨' ', false⟩] ∧
        Fits config.dialect .quotedIdentifier before offset token
          [⟨.quotedIdentifier, offset, offset + quoted.length⟩] := by
  refine Draw.always_after fun count => ?_
  refine Draw.always_bind (Draw.always_times (identifierUnit_leads config.dialect config.odds) _)
    fun body hbody => Draw.always_pure ?_
  have hlast : (cell '"' false ++ join body ++ uniform false ['"', ' ']).text.getLast? =
      some ⟨' ', false⟩ := by
    simp [uniform, Text.uniform]
  have hlength : (cell '"' false ++ join body ++ uniform false ['"', ' ']).text.length =
      1 + (join body).text.length + 2 := by
    simp [cell, uniform, Text.uniform]
    omega
  refine ⟨(cell '"' false ++ join body ++ cell '"' false).text, ?_, by simp [cell], ?_, ?_, ?_⟩
  · simp [cell, uniform, Text.uniform]
  · intro left _ _ right hright
    obtain rfl : _ = right := Option.some.inj hright
    decide
  · intro items rest _
    have hopen : Leads config.dialect .quotedIdentifier offset
        ((join body).text ++ ((uniform false ['"', ' ']).text ++ rest))
        ⟨offset, .code (separates before), items⟩ (cell '"' false)
        ⟨offset + 1, .identifier offset, items⟩ := complete_openIdentifier config.dialect ..
    have hbody := leads_join (fun unit hunit => hbody.2 unit hunit offset offset items)
      (offset + 1) ((uniform false ['"', ' ']).text ++ rest)
    have hclose := identifierEnd_leads config.dialect offset offset
      (offset + 1 + (join body).text.length) items rest
    have hall := (Leads.append (by simpa using hopen) fun _ => hbody).append fun _ => hclose
    have hstop : (cell '"' false ++ join body ++ cell '"' false).text.length =
        1 + (join body).text.length + 1 := by
      simp [cell, Nat.add_comm 1]
    have hseparates : separates (some ⟨' ', false⟩) = true := rfl
    rw [hlast, hlength, hstop, hseparates]
    simpa [Nat.add_assoc] using hall
  · refine sealed_of_clean config.dialect fun _ last hmem => ?_
    obtain rfl : _ = last := Option.some.inj (hlast.symm.trans hmem)
    rfl

end QueryTaint.Token
