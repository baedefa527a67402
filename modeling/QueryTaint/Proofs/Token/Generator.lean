import QueryTaint.Token.Generator
import QueryTaint.Proofs.Token.Quoted
import QueryTaint.Proofs.Token.Comment
import QueryTaint.Proofs.Token.FreeForm
import QueryTaint.Proofs.Token.Items

namespace QueryTaint

variable {σ : Type} [Source σ]

-- The scanner finds the items latest first.
theorem Token.generate_fits (fuel : Nat) (config : TokenConfig) (query : Text) (kind : TokenKind) :
    (Token.generate fuel config query kind : Search σ Token).Always fun token =>
      ∃ found, Fits config.dialect kind query.getLast? query.length token found ∧
        (token.expectation = .accept → Yields query.length kind token.text found.reverse) := by
  cases kind with
  | stringLiteral =>
      refine Search.always_search ((stringLiteral_fits config query).mono fun token hfits => ?_)
      obtain ⟨first, hfirst, hfits⟩ := hfits
      exact ⟨_, hfits, fun _ => .stringLiteral token.text first hfirst⟩
  | quotedIdentifier =>
      have hidentifier := quotedIdentifier_fits (σ := σ) config query.getLast? query.length
      refine Search.always_search (hidentifier.mono fun token hfits => ?_)
      obtain ⟨quoted, htext, hfits⟩ := hfits
      refine ⟨_, hfits, fun _ => ?_⟩
      rw [htext]
      exact .quotedIdentifier quoted
  | number =>
      refine Search.always_search ((number_always config query).mono fun token hnumeral => ?_)
      refine ⟨_, hnumeral.fits config.dialect query.length, fun _ => ?_⟩
      rw [List.reverse_reverse]
      exact hnumeral.yields query.length
  | lineComment =>
      exact Search.always_search ((lineComment_fits config _ _).mono
        fun token hfits => ⟨_, hfits, fun _ => .lineComment token.text⟩)
  | blockComment =>
      exact Search.always_search ((blockComment_fits config _ _).mono
        fun token hfits => ⟨_, hfits, fun _ => .blockComment token.text⟩)
  | other =>
      refine (freeForm_fits fuel config query).mono fun token hfits => ⟨_, hfits, fun _ => ?_⟩
      rw [List.reverse_reverse, values_eq]
      exact .other token.text
  | boolean =>
      refine Search.always_search ((boolean_always config query).mono fun token htruth => ?_)
      refine ⟨_, htruth.fits config.dialect query.length, fun haccept => ?_⟩
      rw [List.reverse_reverse]
      exact htruth.yields haccept query.length

theorem Generator.generate_fits (generator : Generator) (fuel : Nat) (query : Text) :
    (generator.generate fuel query : Search σ (TokenKind × Token)).Always fun (kind, token) =>
      ∃ found,
        token.Fits generator.config.dialect kind query.getLast? query.length found ∧
        (token.expectation = .accept →
          Token.Yields query.length kind token.text found.reverse) :=
  Search.always_after fun kind =>
    Search.always_bind (Token.generate_fits fuel generator.config query kind) fun _ hfits =>
      Search.always_pure hfits

theorem Generator.choose_mem (generator : Generator) :
    (generator.choose : Draw σ TokenKind).Always (· ∈ generator.config.kinds) :=
  Draw.always_after fun _ => Draw.always_pure (List.get_mem ..)

theorem Generator.kind_mem (generator : Generator) (fuel : Nat) (query : Text) :
    (generator.generate fuel query : Search σ (TokenKind × Token)).Always fun (kind, _) =>
      kind ∈ generator.config.kinds :=
  Search.always_bind (Search.always_search generator.choose_mem) fun _ hkind =>
    Search.always_after fun _ => Search.always_pure hkind

end QueryTaint
