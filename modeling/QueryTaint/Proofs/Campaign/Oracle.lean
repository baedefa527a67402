import QueryTaint.Proofs.Campaign.Steps
import QueryTaint.Proofs.Token.Generator

namespace QueryTaint

open Scan

variable (dialect : Dialect)

-- The scanner goes on after the query as if the query had ended there. The items come latest first.
structure Settled (query : Text) (items : List Item) : Prop where
  reads : ∀ rest, ¬Fuses query.getLast? rest →
    complete dialect .start (query ++ rest) =
      complete dialect ⟨query.length, .code (separates query.getLast?), items⟩ rest
  sealed : ∀ last ∈ query.getLast?, last.tainted = true →
    ∃ left run, query.LastRun left run ∧ ∀ next rest, next.tainted = true →
      complete dialect .start (query ++ next :: rest) =
        .error (.violation ⟨.invalidValue, left.length⟩)

theorem settled_nil : Settled dialect [] [] := by
  constructor
  · intro rest _
    rfl
  · intro last hlast
    cases hlast

variable {dialect} {query : Text} {items found : List Item} {kind : TokenKind} {token : Token}

theorem getLast?_append_text (hne : token.text ≠ []) :
    (query ++ token.text).getLast? = token.text.getLast? := by
  rw [List.getLast?_append, List.getLast?_eq_some_getLast hne]
  rfl

-- Between a settled query and a token that passes nothing fuses.
theorem not_fuses_of_accept
    (hfits : token.Fits dialect kind query.getLast? query.length found)
    (haccept : token.expectation = .accept) (rest : Text) :
    ¬Fuses query.getLast? (token.text ++ rest) := by
  rintro ⟨left, hleft, right, hright, hboth⟩
  obtain ⟨first, more, htext⟩ := List.exists_cons_of_ne_nil hfits.ne_nil
  obtain rfl : first = right := by simpa [htext] using hright
  rcases hboth with ⟨htainted, hnext⟩ | ⟨hquote, hnext⟩
  · have hleads := hfits.leads [] [] (not_fuses_nil _)
    unfold Token.Leads at hleads
    rw [haccept] at hleads
    obtain ⟨run, tail, hmore, hrun, htail⟩ := Text.exists_run_cons more hnext
    have hcomplete := complete_taintedRun dialect query.length false [] first run tail hrun htail
    have hseparates : separates query.getLast? = false := by
      rw [Option.mem_def.mp hleft]
      exact separates_tainted htainted
    rw [List.append_nil, htext, hmore, ← List.cons_append, hseparates, hcomplete] at hleads
    cases hleads
  · exact hfits.apart left hleft hquote first (by simp [htext]) hnext

theorem Settled.append (hsettled : Settled dialect query items)
    (hfits : token.Fits dialect kind query.getLast? query.length found)
    (haccept : token.expectation = .accept) :
    Settled dialect (query ++ token.text) (found ++ items) := by
  have hlast : (query ++ token.text).getLast? = token.text.getLast? :=
    getLast?_append_text hfits.ne_nil
  constructor
  · intro rest hfuses
    rw [hlast] at hfuses ⊢
    have hleads := hfits.leads items rest hfuses
    unfold Token.Leads at hleads
    rw [haccept] at hleads
    rw [List.append_assoc, hsettled.reads _ (not_fuses_of_accept hfits haccept rest), hleads,
      List.length_append]
  · intro last hmem htainted
    rw [hlast] at hmem
    obtain ⟨left, run, htext, hne, hrun, hclean, hcomplete⟩ :=
      hfits.sealed haccept last hmem htainted
    refine ⟨query ++ left, run, ⟨by rw [htext, List.append_assoc], hne, hrun, ?_⟩, ?_⟩
    · rw [List.getLast?_append]
      exact hclean
    · intro next rest hnext
      rw [List.append_assoc, hsettled.reads _ (not_fuses_of_accept hfits haccept _),
        List.length_append]
      exact hcomplete items next rest hnext

-- A token that is meant to cause a violation causes the one that is foretold, unless its tainted
-- beginning lengthens a tainted run of the query: then that run is no value any more.
theorem violation_of_expected {cause : String} (hsettled : Settled dialect query items)
    (hfits : token.Fits dialect kind query.getLast? query.length found)
    (hexpected : token.expectation = .violation cause) :
    ∃ violation, complete dialect .start (query ++ token.text) = .error (.violation violation) ∧
      (query.RunsOn token.text →
        ∃ left run, query.LastRun left run ∧ violation = ⟨.invalidValue, left.length⟩) ∧
      (¬query.RunsOn token.text → Foretells query.length kind cause violation) := by
  obtain ⟨first, more, htext⟩ := List.exists_cons_of_ne_nil hfits.ne_nil
  by_cases hrunsOn : query.RunsOn token.text
  · obtain ⟨last, hlast, next, hnext, hlastTainted, hnextTainted⟩ := hrunsOn
    obtain rfl : first = next := by simpa [htext] using hnext
    obtain ⟨left, run, hrun, hcomplete⟩ := hsettled.sealed last hlast hlastTainted
    refine ⟨⟨.invalidValue, left.length⟩, ?_, fun _ => ⟨left, run, hrun, rfl⟩, ?_⟩
    · rw [htext]
      exact hcomplete first more hnextTainted
    · intro hnot
      exact absurd ⟨last, hlast, first, hnext, hlastTainted, hnextTainted⟩ hnot
  · have hfuses : ¬Fuses query.getLast? token.text := by
      rintro ⟨last, hlast, next, hnext, hboth⟩
      rcases hboth with hboth | ⟨hquote, hnextQuote⟩
      · exact hrunsOn ⟨last, hlast, next, hnext, hboth⟩
      · exact hfits.apart last hlast hquote next hnext hnextQuote
    have hleads := hfits.leads items [] (not_fuses_nil _)
    unfold Token.Leads at hleads
    rw [hexpected, List.append_nil] at hleads
    obtain ⟨violation, hviolation, hforetells⟩ := hleads
    refine ⟨violation, ?_, fun h => absurd h hrunsOn, fun _ => hforetells⟩
    rw [hsettled.reads _ hfuses, hviolation]

theorem accepts_of_expected (hsettled : Settled dialect query items)
    (hfits : token.Fits dialect kind query.getLast? query.length found)
    (haccept : token.expectation = .accept) :
    complete dialect .start (query ++ token.text) = .ok (found ++ items) := by
  have hboth := (hsettled.append hfits haccept).reads [] (not_fuses_nil _)
  rw [List.append_nil] at hboth
  exact hboth

namespace Campaign

variable {σ μ : Type} [Source σ] {setup : Setup μ}

-- A token that is kept adds its items; any other leaves the query and the items as they are.
theorem settled_apply {iteration next : Iteration} {verdict : Verdict} {outcome : Outcome}
    (h : Settled dialect iteration.query items)
    (hfits : token.Fits dialect kind iteration.query.getLast? iteration.query.length found)
    (happly : (outcome, next) = (iteration.note kind).apply (iteration.query ++ token.text)
      (settle token.expectation verdict)) :
    Settled dialect next.query (if outcome = .advanced then found ++ items else items) := by
  rw [query_apply happly]
  split
  · rename_i houtcome
    rw [houtcome] at happly
    exact h.append hfits (accept_of_advanced happly)
  · exact h

theorem Reached.settled {iteration : Iteration} (h : Reached σ setup iteration) :
    ∃ items, Settled setup.generator.config.dialect iteration.query items := by
  induction h with
  | begin world => exact ⟨[], settled_nil _⟩
  | step _ hstep ih =>
      obtain ⟨items, hsettled⟩ := ih
      obtain ⟨kind, token, source, hgenerated, happly⟩ := step_cases hstep
      obtain ⟨found, hfits, -⟩ := setup.generator.generate_fits _ _ _ _ _ hgenerated
      exact ⟨_, settled_apply hsettled hfits happly⟩

section Candidate

variable {iteration : Iteration} {fuel : Nat} {before source : σ} {kind : TokenKind}

-- What the reference validator says of the next candidate is what is expected of it.
theorem Reached.reference (h : Reached σ setup iteration)
    (hgenerated : setup.generator.generate fuel iteration.query before =
      some ((kind, token), source)) :
    (token.expectation = .accept ∧
      check setup.generator.config.dialect (iteration.query ++ token.text) = .ok ()) ∨
    ∃ cause found, token.expectation = .violation cause ∧
      check setup.generator.config.dialect (iteration.query ++ token.text) =
        .error (.violation found) := by
  obtain ⟨items, hsettled⟩ := h.settled
  obtain ⟨added, hfits, -⟩ := setup.generator.generate_fits _ _ _ _ _ hgenerated
  cases hexpected : token.expectation with
  | accept =>
      left
      rw [check_eq_complete, accepts_of_expected hsettled hfits hexpected]
      exact ⟨rfl, rfl⟩
  | violation cause =>
      obtain ⟨found, hfound, -⟩ := violation_of_expected hsettled hfits hexpected
      exact .inr ⟨cause, found, rfl, (check_eq_error_iff _ _ _).mpr hfound⟩

theorem Reached.accepts_iff (h : Reached σ setup iteration)
    (hgenerated : setup.generator.generate fuel iteration.query before =
      some ((kind, token), source)) :
    check setup.generator.config.dialect (iteration.query ++ token.text) = .ok () ↔
      token.expectation = .accept := by
  rcases h.reference hgenerated with ⟨haccept, hcheck⟩ | ⟨cause, found, hexpected, hcheck⟩
  · simp [haccept, hcheck]
  · simp [hexpected, hcheck]

theorem Reached.not_malformed (h : Reached σ setup iteration)
    (hgenerated : setup.generator.generate fuel iteration.query before =
      some ((kind, token), source)) (construct : String) (offset : Nat) :
    check setup.generator.config.dialect (iteration.query ++ token.text) ≠
      .error (.malformed construct offset) := by
  rcases h.reference hgenerated with ⟨-, hcheck⟩ | ⟨cause, found, -, hcheck⟩
  · simp [hcheck]
  · simp [hcheck]

end Candidate

-- A source that is a list of numbers, each of them brought into the range that is asked for.
instance listSource : Source (List Nat) where
  coin numbers := (numbers.headD 0 % 2 = 1, numbers.tail)
  below bound positive numbers := (⟨numbers.headD 0 % bound, Nat.mod_lt _ positive⟩, numbers.tail)
  below32 bound positive numbers :=
    (⟨numbers.headD 0 % bound.toNat, Nat.mod_lt _ (UInt32.lt_iff_toNat_lt.mp positive)⟩,
      numbers.tail)
  scalar numbers := (Char.ofNat (numbers.headD 0), numbers.tail)

end Campaign

end QueryTaint
