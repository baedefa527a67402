import QueryTaint.Proofs.Token.Generator

namespace QueryTaint

-- Nothing that has odds ever happens.
def Odds.never : Odds where
  unicode := 0
  literalFault := 0
  identifierTaint := 0
  otherTaint := 0
  booleanNoise := 0
  separatorFault := 0
  null := 0

variable {σ : Type} [Source σ]

theorem Draw.oneIn_zero : (Draw.oneIn 0 : Draw σ Bool) = pure false := dif_neg (by decide)

theorem Draw.oneIn_zero_always : (Draw.oneIn 0 : Draw σ Bool).Always (· = false) := by
  rw [Draw.oneIn_zero]
  exact Draw.always_pure rfl

theorem Expectation.given_false {fault : Bool} (h : fault = false) (cause : String) :
    Expectation.given fault cause = .accept := by
  rw [h]
  rfl

namespace Token

theorem join_accepts {pieces : List Token} (h : ∀ piece ∈ pieces, piece.expectation = .accept) :
    (join pieces).expectation = .accept := by
  induction pieces with
  | nil => rfl
  | cons piece pieces ih =>
      have hfirst := h piece (List.mem_cons_self ..)
      have hmore := ih fun other hother => h other (List.mem_cons_of_mem _ hother)
      exact (append_accepts_iff piece (join pieces)).mpr ⟨hfirst, hmore⟩

theorem character_never : (character .never : Draw σ Char) = letter := by
  unfold character Odds.never
  rw [Draw.oneIn_zero]
  rfl

theorem character_always : (character .never : Draw σ Char).Always fun char =>
    char ≠ '\x00' ∧ isLineEnd char = false := by
  have halphabet : ∀ char ∈ alphabet, char ≠ '\x00' ∧ isLineEnd char = false := by
    simp [alphabet, isLineEnd]
  rw [character_never]
  exact Draw.always_after fun index => Draw.always_pure (halphabet _ (List.get_mem ..))

theorem openingCell_accepts (char : Char) :
    (openingCell .never char : Draw σ Token).Always (·.expectation = .accept) :=
  Draw.always_bind Draw.oneIn_zero_always fun _ hfault =>
    Draw.always_pure (Expectation.given_false hfault _)

theorem openingQuote_accepts (last : Option Cell) :
    (openingQuote .never last : Draw σ Token).Always (·.expectation = .accept) := by
  refine Draw.always_ite ?_ fun _ => openingCell_accepts '\''
  intro _
  exact Draw.always_bind (openingCell_accepts ' ') fun space hspace =>
    Draw.always_bind (openingCell_accepts '\'') fun quote hquote =>
      Draw.always_pure ((append_accepts_iff space quote).mpr ⟨hspace, hquote⟩)

theorem literalUnit_accepts :
    (literalUnit .never : Draw σ Token).Always (·.expectation = .accept) := by
  refine Draw.always_after fun tainted => Draw.always_bind character_always fun char hchar =>
    Draw.always_ite ?_ ?_
  · intro _
    exact Draw.always_bind Draw.oneIn_zero_always fun _ hfault =>
      Draw.always_pure (Expectation.given_false hfault _)
  · intro _
    have hnull : (decide (char = '\x00') && tainted) = false := by simp [hchar.1]
    exact Draw.always_pure (Expectation.given_false hnull _)

theorem closingQuote_accepts :
    (closingQuote .never : Draw σ Token).Always (·.expectation = .accept) :=
  Draw.always_bind Draw.oneIn_zero_always fun _ hfault =>
    Draw.always_pure (Expectation.given_false hfault _)

theorem identifierUnit_accepts :
    (identifierUnit .never : Draw σ Token).Always (·.expectation = .accept) :=
  Draw.always_after fun _ => Draw.always_bind Draw.oneIn_zero_always fun _ htainted =>
    Draw.always_pure (Expectation.given_false htainted _)

theorem separator_accepts (last : Option Cell) :
    (separator .never last : Draw σ Token).Always (·.expectation = .accept) := by
  refine Draw.always_ite (fun _ => Draw.always_pure rfl) ?_
  intro _
  refine Draw.always_bind Draw.oneIn_zero_always fun fault hfault => ?_
  rw [hfault]
  exact Draw.always_pure rfl

theorem lineBody_accepts (bound : Nat) :
    (lineBody .never bound : Draw σ Token).Always (·.expectation = .accept) := by
  induction bound with
  | zero => exact Draw.always_after fun ending => Draw.always_pure rfl
  | succ bound ih =>
      refine Draw.always_after fun tainted => Draw.always_bind character_always fun char hchar =>
        Draw.always_ite ?_ ?_
      · intro hend
        rw [hchar.2] at hend
        cases hend
      · intro _
        exact Draw.always_bind ih fun rest hrest =>
          Draw.always_pure ((append_accepts_iff (cell char tainted) rest).mpr ⟨rfl, hrest⟩)

theorem spell_uniform (tainted : Bool) (word : List Char) :
    (spell .never tainted word : Draw σ Text).Always fun text =>
      ∀ cell ∈ text, cell.tainted = tainted := by
  induction word with
  | nil => exact Draw.always_pure (by simp)
  | cons char word ih =>
      refine Draw.always_bind Draw.oneIn_zero_always fun noise hnoise =>
        Draw.always_after fun letter => Draw.always_bind ih fun rest hrest => Draw.always_pure ?_
      simpa [hnoise] using hrest

theorem acceptable_clean (before : Option Cell) (text : Text) (fuel : Nat) :
    (acceptable .never before text fuel : Search σ Cell).Always (·.tainted = false) := by
  induction fuel with
  | zero => exact Search.always_failure
  | succ fuel ih =>
      exact Search.always_bind (Search.always_search Draw.oneIn_zero_always) fun tainted htainted =>
        Search.always_after fun char => Search.always_ite (fun _ => ih) fun _ =>
          Search.always_pure htainted

theorem lengthen_clean (fuel : Nat) (before : Option Cell) (count : Nat) {text : Text}
    (h : ∀ cell ∈ text, cell.tainted = false) :
    (lengthen fuel .never before count text : Search σ Text).Always fun result =>
      ∀ cell ∈ result, cell.tainted = false := by
  induction count generalizing text with
  | zero => exact Search.always_pure h
  | succ count ih =>
      refine Search.always_bind (acceptable_clean before text fuel) fun cell hcell => ih ?_
      exact List.forall_mem_append.mpr ⟨h, by simpa using hcell⟩

theorem guarded_clean (guard : Guard) {text : Text} (h : ∀ cell ∈ text, cell.tainted = false) :
    ∀ cell ∈ guarded guard text, cell.tainted = false := by
  unfold guarded
  split
  · exact List.forall_mem_append.mpr ⟨h, by simp⟩
  · exact h

theorem predict_clean (query : Text) {text : Text} (h : ∀ cell ∈ text, cell.tainted = false) :
    predict query text = .accept := by
  rw [predict_eq, Text.checkRunsAfter_of_clean _ _ h]

section Kinds

variable {config : TokenConfig} (hodds : config.odds = .never)

include hodds

theorem stringLiteral_accepts (query : Text) :
    (stringLiteral config query : Draw σ Token).Always (·.expectation = .accept) := by
  unfold stringLiteral
  rw [hodds]
  refine Draw.always_after fun count => Draw.always_bind (openingQuote_accepts _)
    fun opening hopening => Draw.always_bind (Draw.always_times literalUnit_accepts _)
      fun body hbody => Draw.always_bind closingQuote_accepts fun closing hclosing =>
        Draw.always_pure ?_
  have hopened := (append_accepts_iff opening (join body)).mpr ⟨hopening, join_accepts hbody.2⟩
  exact (append_accepts_iff _ closing).mpr ⟨hopened, hclosing⟩

theorem quotedIdentifier_accepts :
    (quotedIdentifier config : Draw σ Token).Always (·.expectation = .accept) := by
  unfold quotedIdentifier
  rw [hodds]
  refine Draw.always_after fun count => Draw.always_bind
    (Draw.always_times identifierUnit_accepts _) fun body hbody => Draw.always_pure ?_
  have hopened := (append_accepts_iff (cell '"' false) (join body)).mpr ⟨rfl, join_accepts hbody.2⟩
  exact (append_accepts_iff _ _).mpr ⟨hopened, rfl⟩

theorem number_accepts (query : Text) :
    (number config query : Draw σ Token).Always (·.expectation = .accept) := by
  unfold number
  rw [hodds]
  refine Draw.always_after fun count => Draw.always_after fun tainted => ?_
  -- Of the parts only the separator could be at fault.
  have hliteral : ∀ separator : Token, separator.expectation = .accept → Draw.Always (do
      let sign ← sign
      let mantissa ← mantissa (count + 1)
      let exponent ← exponent
      pure (separator ++ uniform tainted (sign ++ mantissa ++ exponent) ++ cell ' ' false) :
        Draw σ Token) (·.expectation = .accept) := by
    intro separator hseparator
    refine Draw.always_after fun sign => Draw.always_after fun mantissa =>
      Draw.always_after fun exponent => Draw.always_pure ?_
    rw [expectation_between]
    exact hseparator
  cases tainted with
  | true => exact Draw.always_bind (separator_accepts _) hliteral
  | false => exact hliteral empty rfl

theorem lineComment_accepts :
    (lineComment config : Draw σ Token).Always (·.expectation = .accept) := by
  unfold lineComment
  rw [hodds]
  exact Draw.always_after fun bound => Draw.always_after fun opener =>
    Draw.always_bind (lineBody_accepts _) fun body hbody =>
      Draw.always_pure ((append_accepts_iff (uniform false opener) body).mpr ⟨rfl, hbody⟩)

theorem freeForm_accepts (fuel : Nat) (query : Text) :
    (freeForm fuel config query : Search σ Token).Always (·.expectation = .accept) := by
  unfold freeForm
  rw [hodds]
  exact Search.always_after fun count => Search.always_bind
    (lengthen_clean fuel _ (count + 1) (by simp)) fun text hclean =>
      Search.always_pure (predict_clean query (guarded_clean config.guard hclean))

theorem boolean_accepts (query : Text) :
    (boolean config query : Draw σ Token).Always (·.expectation = .accept) := by
  unfold boolean
  rw [hodds]
  refine Draw.always_after fun tainted => Draw.always_after fun word =>
    Draw.always_bind (spell_uniform tainted word) fun literal hliteral =>
      Draw.always_ite (fun _ => Draw.always_pure rfl) fun hsome => Draw.always_ite ?_ ?_
  · intro _
    exact Draw.always_bind (separator_accepts _) fun separator hseparator =>
      Draw.always_pure ((append_accepts_iff separator ⟨literal, .accept⟩).mpr ⟨hseparator, rfl⟩)
  -- Without noise all the bits of the word are equal.
  · intro hmixed
    cases tainted with
    | true => exact absurd (List.countP_eq_length.mpr hliteral) hmixed
    | false =>
        have hnone : literal.taintCount = 0 := by
          simpa [Text.taintCount, List.countP_eq_zero] using hliteral
        exact absurd hnone hsome

theorem generate_accepts (fuel : Nat) (query : Text) {kind : TokenKind}
    (hkind : kind ≠ .blockComment) :
    (generate fuel config query kind : Search σ Token).Always (·.expectation = .accept) := by
  cases kind with
  | stringLiteral => exact Search.always_search (stringLiteral_accepts hodds query)
  | quotedIdentifier => exact Search.always_search (quotedIdentifier_accepts hodds)
  | number => exact Search.always_search (number_accepts hodds query)
  | lineComment => exact Search.always_search (lineComment_accepts hodds)
  | blockComment => exact absurd rfl hkind
  | other => exact freeForm_accepts hodds fuel query
  | boolean => exact Search.always_search (boolean_accepts hodds query)

end Kinds

-- Only the draws of free-form text may not end.
theorem kind_of_generate_eq_none {fuel : Nat} {config : TokenConfig} {query : Text}
    {kind : TokenKind} {source : σ} (h : generate fuel config query kind source = none) :
    kind = .other := by
  cases kind with
  | other => rfl
  | stringLiteral | quotedIdentifier | number | lineComment | blockComment | boolean => cases h

end Token

namespace Generator

variable (generator : Generator)

theorem generate_accepts (hodds : generator.config.odds = .never)
    (hkinds : .blockComment ∉ generator.config.kinds) (fuel : Nat) (query : Text) :
    (generator.generate fuel query : Search σ (TokenKind × Token)).Always fun (_, token) =>
      token.expectation = .accept := by
  refine Search.always_bind (Search.always_search generator.choose_mem) fun kind hkind => ?_
  have hother : kind ≠ .blockComment := by
    rintro rfl
    exact hkinds hkind
  exact Search.always_bind (Token.generate_accepts hodds fuel query hother) fun _ haccept =>
    Search.always_pure haccept

theorem choose_of_generate_eq_none {fuel : Nat} {query : Text} {source : σ}
    (h : generator.generate fuel query source = none) :
    (generator.choose source).1 = .other := by
  -- The kind is drawn in any case, so it is the token that is missing.
  have hbind : (Token.generate fuel generator.config query (generator.choose source).1
      (generator.choose source).2).bind
        (fun drawn => some (((generator.choose source).1, drawn.1), drawn.2)) = none := h
  have htoken : Token.generate fuel generator.config query (generator.choose source).1
      (generator.choose source).2 = none := by
    rw [Option.eq_none_iff_forall_ne_some]
    intro drawn hdrawn
    cases Option.bind_eq_none_iff.mp hbind drawn hdrawn
  exact Token.kind_of_generate_eq_none htoken

end Generator

end QueryTaint
