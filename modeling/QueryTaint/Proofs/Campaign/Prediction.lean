import Mathlib.Data.List.Chain
import QueryTaint.Proofs.Campaign.Oracle
import QueryTaint.Proofs.Scan.Values

namespace QueryTaint

open Scan

-- Text with no quotes in it that forms no comment delimiter, not even with the end of the query.
structure Token.Free (query text : Text) : Prop where
  quote_ne : ∀ cell ∈ text, cell.char ≠ '\'' ∧ cell.char ≠ '"'
  apart : List.IsChain (fun first second => formsDelimiter first second = false)
    ((query.getLast?.map Cell.char).getD ' ' :: text.chars)

namespace Token

theorem plain_of_apart {text : Text} (hquotes : ∀ cell ∈ text, cell.char ≠ '\'' ∧ cell.char ≠ '"')
    (hapart : text.chars.IsChain fun first second => formsDelimiter first second = false) :
    Plain text := by
  induction text with
  | nil => trivial
  | cons cell text ih =>
      obtain ⟨hquote, hmark⟩ := hquotes cell (List.mem_cons_self ..)
      have hrest := ih (fun other hother => hquotes other (List.mem_cons_of_mem _ hother))
        hapart.tail
      refine ⟨fun _ => ⟨hquote, hmark, fun next hnext => ?_⟩, hrest⟩
      obtain ⟨more, rfl⟩ := List.head?_eq_some_iff.mp hnext
      exact opensComment_of_formsDelimiter (List.isChain_cons_cons.mp hapart).1

theorem Free.plain {query text : Text} (h : Free query text) : Plain text :=
  plain_of_apart h.quote_ne h.apart.tail

-- Where no tainted run goes on, the text does not touch what the query ends in.
theorem Free.not_fuses {query text : Text} (h : Free query text) (hrunsOn : ¬query.RunsOn text) :
    ¬Fuses query.getLast? text := by
  rintro ⟨last, hlast, next, hnext, hboth | ⟨-, hquote⟩⟩
  · exact hrunsOn ⟨last, hlast, next, hnext, hboth⟩
  · exact (h.quote_ne next (List.mem_of_mem_head? hnext)).1 hquote

end Token

variable {dialect : Dialect} {query text : Text} {items : List Item}

-- After a settled query the validator judges the tainted runs of the text, and nothing more.
theorem Settled.check_append (hsettled : Settled dialect query items)
    (hfree : Token.Free query text) (hrunsOn : ¬query.RunsOn text) :
    check dialect (query ++ text) =
      (text.checkRunsAfter query.getLast? query.length).mapError .violation := by
  rw [check_eq_complete, hsettled.reads text (hfree.not_fuses hrunsOn)]
  exact complete_plain_end dialect query.getLast? query.length items hfree.plain

-- Where a run goes on, the validator finds fault with all of it and the prediction with the rest.
theorem Settled.rejects_append (hsettled : Settled dialect query items)
    (hrunsOn : query.RunsOn text) :
    (∃ left run, query.LastRun left run ∧
      check dialect (query ++ text) = .error (.violation ⟨.invalidValue, left.length⟩)) ∧
    Token.predict query text = .violation ViolationKind.unseparatedValue.name := by
  have hmid := (Text.runsOn_iff_midRun query text).mp hrunsOn
  have hchecked := Text.checkRuns_of_midRun hmid
  obtain ⟨last, hlast, first, hfirst, hlastTainted, hfirstTainted⟩ := hrunsOn
  obtain ⟨more, rfl⟩ := List.head?_eq_some_iff.mp hfirst
  obtain ⟨left, run, hrun, hcomplete⟩ := hsettled.sealed last hlast hlastTainted
  refine ⟨⟨left, run, hrun, ?_⟩, ?_⟩
  · exact (check_eq_error_iff ..).mpr (hcomplete first more hfirstTainted)
  · rw [Text.checkRuns_append] at hchecked
    rw [Token.predict_eq, hchecked]

namespace Campaign

variable {σ μ : Type} [Source σ]

-- What is predicted for a free-form text after a query of a campaign is what the reference
-- validator says of it. Only if the text goes on with a tainted run of the query does the kind of
-- the violation differ.
theorem prediction_agrees (setup : Setup μ) {iteration : Iteration}
    (h : Reached σ setup iteration) {text : Text} (hfree : Token.Free iteration.query text)
    (incidents : Incidents) :
    let verdict := (validate setup.generator.config.dialect .reject (iteration.query ++ text)
      incidents).1
    let predicted := Token.predict iteration.query text
    (∀ construct offset, verdict ≠ .error (.malformed construct offset)) ∧
      (verdict = .ok () ↔ predicted = .accept) ∧
      (¬iteration.query.RunsOn text → ∀ found, verdict = .error (.violation found) →
        predicted = .violation found.kind.name) ∧
      (iteration.query.RunsOn text → predicted = .violation ViolationKind.unseparatedValue.name ∧
        ∃ left run, iteration.query.LastRun left run ∧
          verdict = .error (.violation ⟨.invalidValue, left.length⟩)) := by
  intro verdict predicted
  have hverdict : verdict = check setup.generator.config.dialect (iteration.query ++ text) :=
    validate_reject ..
  obtain ⟨items, hsettled⟩ := h.settled
  by_cases hrunsOn : iteration.query.RunsOn text
  · obtain ⟨⟨left, run, hrun, hcheck⟩, hpredicted⟩ := hsettled.rejects_append hrunsOn
    have hrejected : verdict = .error (.violation ⟨.invalidValue, left.length⟩) :=
      hverdict.trans hcheck
    refine ⟨?_, ?_, fun hnot => absurd hrunsOn hnot, fun _ => ⟨hpredicted, left, run, hrun, ?_⟩⟩
    · simp [hrejected]
    · simp [hrejected, predicted, hpredicted]
    · exact hrejected
  · rw [hsettled.check_append hfree hrunsOn] at hverdict
    have hpredicted : predicted = _ := Token.predict_eq iteration.query text
    cases hjudged : text.checkRunsAfter iteration.query.getLast? iteration.query.length with
    | ok _ =>
        rw [hjudged] at hverdict hpredicted
        have haccepted : verdict = .ok () := hverdict
        refine ⟨?_, ?_, fun _ => ?_, fun hboth => absurd hboth hrunsOn⟩
        all_goals simp [haccepted, hpredicted]
    | error found =>
        rw [hjudged] at hverdict hpredicted
        have hrejected : verdict = .error (.violation found) := hverdict
        refine ⟨?_, ?_, fun _ => ?_, fun hboth => absurd hboth hrunsOn⟩
        all_goals simp [hrejected, hpredicted]

-- The letter before the digit is no boundary, and it keeps the digit apart from the truth value.
theorem prediction_agrees_letter :
    let setup : Setup Unit :=
      ⟨⟨.default, by decide⟩, .reference ⟨false⟩ .reject, 2, by decide⟩
    let iteration : Iteration := ⟨.uniform true ['T', 'R', 'U', 'E'], [.token .boolean], 1, 1, 0⟩
    let text : Text := .uniform false ['x'] ++ .uniform true ['7']
    Reached (List Nat) setup iteration ∧ Token.Free iteration.query text ∧
      ¬iteration.query.RunsOn text ∧
      (validate ⟨false⟩ .reject (iteration.query ++ text) .none).1 =
        .error (.violation ⟨.unseparatedValue, 5⟩) ∧
      Token.predict iteration.query text = .violation "unseparated_tainted_value" := by
  intro setup iteration text
  have hbegin : Reached (List Nat) setup (.start 1) := .begin ⟨[0], (), .none⟩
  have hstep : step 0 setup (.start 1) ⟨[6, 1, 1, 1, 1, 1, 1, 1, 1, 1, 1], (), .none⟩ =
      some (.advanced, iteration, (⟨[], (), .none⟩ : World (List Nat) Unit)) := rfl
  have hreached : Reached (List Nat) setup iteration := .step hbegin hstep
  have hfree : Token.Free iteration.query text := ⟨by decide, by decide⟩
  have hrunsOn : ¬iteration.query.RunsOn text := by
    rintro ⟨_, _, first, hfirst, -, htainted⟩
    cases hfirst
    cases htainted
  have hverdict : (validate ⟨false⟩ .reject (iteration.query ++ text) .none).1 =
      .error (.violation ⟨.unseparatedValue, 5⟩) := rfl
  obtain ⟨-, -, hkind, -⟩ := prediction_agrees setup hreached hfree .none
  exact ⟨hreached, hfree, hrunsOn, hverdict, hkind hrunsOn _ hverdict⟩

end Campaign

end QueryTaint
