import QueryTaint.Proofs.Campaign.Oracle

namespace QueryTaint.Campaign

variable {σ μ : Type} [Source σ]

-- The cause of the next token foretells what the reference validator reports. If the token goes on
-- with a tainted run of the query, the whole run is no value, and the report is where it begins.
theorem violation_foretold (setup : Setup μ) {iteration : Iteration} {fuel : Nat}
    {before source : σ} {kind : TokenKind} {token : Token} {cause : String}
    (h : Reached σ setup iteration)
    (hgenerated : setup.generator.generate fuel iteration.query before =
      some ((kind, token), source))
    (hexpected : token.expectation = .violation cause) (incidents : Incidents) :
    ∃ found,
      (validate setup.generator.config.dialect .reject (iteration.query ++ token.text)
        incidents).1 = .error (.violation found) ∧
      (iteration.query.RunsOn token.text →
        ∃ left run, iteration.query.LastRun left run ∧ found = ⟨.invalidValue, left.length⟩) ∧
      (¬iteration.query.RunsOn token.text → Foretells iteration.query.length kind cause found) := by
  obtain ⟨items, hsettled⟩ := h.settled
  obtain ⟨added, hfits, -⟩ := setup.generator.generate_fits _ _ _ _ _ hgenerated
  obtain ⟨found, hcomplete, hrunsOn, hforetells⟩ := violation_of_expected hsettled hfits hexpected
  refine ⟨found, ?_, hrunsOn, hforetells⟩
  rw [validate_reject]
  exact (Scan.check_eq_error_iff _ _ _).mpr hcomplete

-- Three faults in one literal: a tainted null character, an escape of two different bits and a
-- tainted closing quote. The first one counts.
theorem violation_foretold_nullByte :
    let setup : Setup Unit :=
      ⟨⟨.default, by decide⟩, .reference ⟨false⟩ .reject, 2, by decide⟩
    let token : Token :=
      ⟨[⟨'\'', false⟩, ⟨'\x00', true⟩, ⟨'\'', false⟩, ⟨'\'', true⟩, ⟨'\'', true⟩],
        .violation "tainted null byte in string literal"⟩
    Reached (List Nat) setup (.start 1) ∧
      setup.generator.generate 0 [] [0, 2, 1, 1, 0, 0, 0, 1, 63, 0, 0] =
        some ((.stringLiteral, token), ([] : List Nat)) ∧
      ¬Text.RunsOn [] token.text ∧
      ∃ found, (validate ⟨false⟩ .reject token.text .none).1 = .error (.violation found) ∧
        found.kind = .nullByte := by
  intro setup token
  have hbegin : Reached (List Nat) setup (.start 1) := .begin ⟨[0], (), .none⟩
  have hgenerated : setup.generator.generate 0 [] [0, 2, 1, 1, 0, 0, 0, 1, 63, 0, 0] =
      some ((.stringLiteral, token), ([] : List Nat)) := rfl
  have hrunsOn : ¬Text.RunsOn [] token.text := by
    rintro ⟨_, hlast, _⟩
    cases hlast
  obtain ⟨found, hverdict, -, hforetells⟩ :=
    violation_foretold setup hbegin hgenerated rfl .none
  have hkind : ∀ cause, Foretells 0 .stringLiteral cause found →
      cause = "tainted null byte in string literal" → found.kind = .nullByte := by
    intro cause h hcause
    cases h with
    | nullByte offset => rfl
    | opener _ _ => exact absurd hcause (by decide)
    | mixedQuoteEscape offset => exact absurd hcause (by decide)
    | closingQuote offset => exact absurd hcause (by decide)
    | unseparated _ _ => exact absurd hcause (by decide)
  exact ⟨hbegin, hgenerated, hrunsOn, found, hverdict, hkind _ (hforetells hrunsOn) rfl⟩

end QueryTaint.Campaign
