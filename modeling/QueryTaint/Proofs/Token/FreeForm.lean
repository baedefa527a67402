import QueryTaint.Proofs.Text.Positions
import QueryTaint.Proofs.Token.Forecast

namespace QueryTaint

theorem Guard.not_requires_iff (guard : Guard) (char : Char) :
    guard.requires char = false ↔ char.isDigit = false ∧ char ∉ guard.chars := by
  simp [Guard.requires]

namespace Token

open Scan

variable {σ : Type} [Source σ] (dialect : Dialect)

-- Two neighbours that would open a comment are refused, as are the two halves of its end.
theorem opensComment_of_formsDelimiter {first second : Char}
    (h : formsDelimiter first second = false) : opensComment first second = false := by
  simp only [formsDelimiter, opensComment] at *
  grind

-- Nothing opens in the text, and no character of it is a quote whatever its bit is.
structure Unquoted (text : Text) : Prop where
  plain : Plain text
  quote_ne : ∀ cell ∈ text, cell.char ≠ '\''

theorem Unquoted.concat {before : Option Cell} {text : Text} {cell : Cell} (h : Unquoted text)
    (haccepts : refuses before text cell.char = false) : Unquoted (text ++ [cell]) := by
  simp only [refuses, Bool.or_eq_false_iff, decide_eq_false_iff_not] at haccepts
  obtain ⟨⟨⟨hquote, hmark⟩, -⟩, hdelimiter⟩ := haccepts
  constructor
  · refine h.plain.concat hquote hmark fun last hlast => ?_
    rw [Option.mem_def.mp hlast] at hdelimiter
    exact opensComment_of_formsDelimiter hdelimiter
  · intro other hother
    rcases List.mem_append.mp hother with hother | hother
    · exact h.quote_ne other hother
    · obtain rfl := List.mem_singleton.mp hother
      exact hquote

theorem acceptable_always (odds : Odds) (before : Option Cell) (text : Text) (fuel : Nat) :
    (acceptable odds before text fuel : Search σ Cell).Always fun cell =>
      refuses before text cell.char = false := by
  induction fuel with
  | zero => exact Search.always_failure
  | succ fuel ih =>
      refine Search.always_after fun tainted => Search.always_after fun char =>
        Search.always_ite (fun _ => ih) fun haccepts => Search.always_pure ?_
      simpa using haccepts

-- What every accepted character keeps is true of the whole text.
theorem lengthen_always {before : Option Cell} {property : Text → Prop}
    (hkeeps : ∀ {text : Text} {cell : Cell}, property text →
      refuses before text cell.char = false → property (text ++ [cell]))
    (fuel : Nat) (odds : Odds) (count : Nat) {text : Text} (h : property text) :
    (lengthen fuel odds before count text : Search σ Text).Always fun result =>
      property result ∧ result.length = text.length + count := by
  induction count generalizing text with
  | zero => exact Search.always_pure ⟨h, rfl⟩
  | succ count ih =>
      refine Search.always_bind (acceptable_always odds before text fuel) fun cell hcell =>
        (ih (hkeeps h hcell)).mono fun result hresult => ⟨hresult.1, ?_⟩
      rw [hresult.2, List.length_append, List.length_singleton]
      omega

theorem refuses_space (before : Option Cell) (text : Text) : refuses before text ' ' = false := by
  simp [refuses, formsDelimiter]

-- The space at the end would have been accepted as well.
theorem guarded_keeps (before : Option Cell) {property : Text → Prop}
    (hkeeps : ∀ {text : Text} {cell : Cell}, property text →
      refuses before text cell.char = false → property (text ++ [cell]))
    (guard : Guard) {text : Text} (h : property text) : property (guarded guard text) := by
  unfold guarded
  split
  · exact hkeeps h (refuses_space before text)
  · exact h

theorem guarded_end (guard : Guard) (text : Text) :
    ∀ last ∈ (guarded guard text).getLast?,
      last.tainted = false ∧ (last.char = ' ' ∨ guard.requires last.char = false) := by
  intro last hlast
  unfold guarded at hlast
  split at hlast
  · rw [List.getLast?_concat] at hlast
    obtain rfl := Option.some.inj hlast
    exact ⟨rfl, .inl rfl⟩
  · rename_i hfree
    rw [Option.mem_def.mp hlast] at hfree
    simp only [Option.any_some, Bool.or_eq_true, not_or, Bool.not_eq_true] at hfree
    exact ⟨hfree.1, .inr hfree.2⟩

-- The end of the text is clean, and no half of a comment delimiter.
theorem guarded_last (guard : Guard) (text : Text) :
    ∀ last ∈ (guarded guard text).getLast?,
      last.tainted = false ∧ last.char ≠ '-' ∧ last.char ≠ '/' := by
  intro last hlast
  obtain ⟨hclean, hspace | hrequires⟩ := guarded_end guard text last hlast
  · simp [hclean, hspace]
  · obtain ⟨-, hguard⟩ := (Guard.not_requires_iff guard last.char).mp hrequires
    have hne : ∀ char ∈ Guard.base, last.char ≠ char := by
      rintro char hchar rfl
      exact hguard (guard.base_subset hchar)
    exact ⟨hclean, hne '-' (by decide), hne '/' (by decide)⟩

-- The prediction is the judgement of the runs, and of clean text there is nothing to judge.
theorem predict_eq (query text : Text) :
    predict query text =
      match text.checkRunsAfter query.getLast? query.length with
      | .ok () => .accept
      | .error found => .violation found.kind.name := by
  unfold predict
  cases htainted : text.isTainted with
  | true =>
      cases hjudged : text.checkRunsAfter query.getLast? query.length with
      | ok _ => simp [Text.checkRuns_append, hjudged]
      | error found => simp [Text.checkRuns_append, hjudged]
  | false =>
      have hclean : ∀ cell ∈ text, cell.tainted = false := by
        simpa [Text.isTainted] using htainted
      rw [Text.checkRunsAfter_of_clean _ _ hclean]
      rfl

theorem predict_judged (query text : Text) :
    Judged .other query.getLast? query.length ⟨text, predict query text⟩ := by
  unfold Judged
  rw [predict_eq]
  cases text.checkRunsAfter query.getLast? query.length with
  | ok _ => rfl
  | error found => exact ⟨found, rfl, .freeForm found⟩

theorem freeForm_fits (fuel : Nat) (config : TokenConfig) (query : Text) :
    (freeForm fuel config query : Search σ Token).Always fun token =>
      Fits config.dialect .other query.getLast? query.length token
        (values query.length token.text).reverse := by
  have hnone : Unquoted [] := ⟨trivial, by simp⟩
  refine Search.always_after fun count =>
    Search.always_bind (lengthen_always Unquoted.concat fuel config.odds (count + 1) hnone)
      fun text ⟨hunquoted, hlength⟩ => Search.always_pure ?_
  have hguarded := guarded_keeps query.getLast? Unquoted.concat config.guard hunquoted
  have hlast := guarded_last config.guard text
  apply fits_of_judged config.dialect .other
  · intro hnil
    have htext : text = [] := by
      unfold guarded at hnil
      split at hnil
      · simp at hnil
      · exact hnil
    simp [htext] at hlength
  · intro right hright
    exact hguarded.quote_ne right (List.mem_of_mem_head? hright)
  · exact hguarded.plain
  · intro last hmem _
    exact (hlast last hmem).2
  · exact predict_judged query _
  · exact sealed_of_clean config.dialect fun _ last hmem => (hlast last hmem).1

end Token

end QueryTaint
