import QueryTaint.Proofs.Token.Generator

namespace QueryTaint

-- Whether the next character may open another level, as a number.
def Nesting.pending (nesting : Nesting) : Nat := if nesting.half = .slash then 1 else 0

-- It takes two characters to open a level.
theorem Nesting.level_next_le (nesting : Nesting) (cell : Cell) (bound : Nat) :
    (nesting.next cell).level + (bound + (nesting.next cell).pending) / 2 ≤
      nesting.level + (bound + 1 + nesting.pending) / 2 := by
  have hpending : ∀ other : Nesting, other.pending ≤ 1 := by
    intro other
    unfold pending
    split <;> omega
  cases hchange : nesting.change cell.char with
  | none =>
      have hlevel : (nesting.next cell).level = nesting.level := by simp only [next, hchange]
      have hnext := hpending (nesting.next cell)
      omega
  | opened =>
      have hhalf : nesting.pending = 1 := by
        unfold change at hchange
        split at hchange
        · rename_i h
          exact if_pos h.2.1
        · split at hchange <;> cases hchange
      have hlevel : (nesting.next cell).level = nesting.level + 1 := by simp only [next, hchange]
      have hnext : (nesting.next cell).pending = 0 := by
        simp only [next, hchange, pending, reduceCtorEq, if_false]
      omega
  | closed =>
      have hlevel : (nesting.next cell).level = nesting.level - 1 := by simp only [next, hchange]
      have hnext := hpending (nesting.next cell)
      omega

namespace Token

variable {σ : Type} [Source σ]

-- The most cells that a token of the kind has: what opens it, the body and what closes it.
def longest : TokenKind → Nat
  | .stringLiteral => 2 + 2 * 255 + 1
  | .quotedIdentifier => 1 + 2 * 63 + 2
  | .number => 1 + 1 + (32 + 1 + 31) + (2 + 32) + 1
  | .lineComment => 2 + 64 + 1
  | .blockComment => 2 + 63 + 3 * (1 + 31)
  | .other => 64 + 1
  | .boolean => 1 + 5

theorem longest_le (kind : TokenKind) : longest kind ≤ 513 := by
  cases kind <;> decide

theorem length_join_le {pieces : List Token} {bound : Nat}
    (h : ∀ piece ∈ pieces, piece.text.length ≤ bound) :
    (join pieces).text.length ≤ bound * pieces.length := by
  induction pieces with
  | nil => exact Nat.zero_le _
  | cons piece pieces ih =>
      have hpiece := h piece (by simp)
      have hmore := ih fun other hother => h other (List.mem_cons_of_mem _ hother)
      have hjoin : (join (piece :: pieces)).text.length =
          piece.text.length + (join pieces).text.length := List.length_append
      rw [hjoin, List.length_cons, Nat.mul_add, Nat.mul_one]
      omega

theorem literalUnit_length (odds : Odds) :
    (literalUnit odds : Draw σ Token).Always (·.text.length ≤ 2) :=
  Draw.always_after fun _ => Draw.always_after fun _ =>
    Draw.always_ite (fun _ => Draw.always_after fun _ => Draw.always_pure (Nat.le_refl 2))
      fun _ => Draw.always_pure (Nat.le_succ 1)

theorem stringLiteral_length (config : TokenConfig) (query : Text) :
    (stringLiteral config query : Draw σ Token).Always
      (·.text.length ≤ longest .stringLiteral) := by
  refine Draw.always_after fun count => Draw.always_bind
    (openingQuote_leads config.dialect config.odds _) fun opening ⟨_, hopening, _⟩ =>
      Draw.always_bind (Draw.always_times (literalUnit_length config.odds) _) fun body hbody =>
        Draw.always_bind (closingQuote_leads config.dialect config.odds)
          fun closing ⟨_, hclosing, _⟩ => Draw.always_pure ?_
  have hjoin := length_join_le hbody.2
  have hcount := count.is_le
  simp only [text_append, List.length_append, hclosing, List.length_singleton, longest]
  omega

theorem identifierUnit_length (odds : Odds) :
    (identifierUnit odds : Draw σ Token).Always (·.text.length ≤ 2) := by
  refine Draw.always_after fun char => Draw.always_after fun tainted => Draw.always_pure ?_
  dsimp only
  split
  · exact Nat.le_refl 2
  · exact Nat.le_succ 1

theorem quotedIdentifier_length (config : TokenConfig) :
    (quotedIdentifier config : Draw σ Token).Always
      (·.text.length ≤ longest .quotedIdentifier) := by
  refine Draw.always_after fun count => Draw.always_bind
    (Draw.always_times (identifierUnit_length config.odds) _) fun body hbody =>
      Draw.always_pure ?_
  have hjoin := length_join_le hbody.2
  have hcount := count.is_le
  simp only [text_append, List.length_append, cell, uniform, Text.uniform, List.length_map,
    List.length_cons, List.length_nil, longest]
  omega

theorem sign_length : (sign : Draw σ (List Char)).Always (·.length ≤ 1) :=
  sign_always.mono fun sign hsign => by cases hsign <;> simp

theorem mantissa_length (count : Nat) :
    (mantissa count : Draw σ (List Char)).Always (·.length ≤ count + 1 + 31) := by
  have hdigits := digits_always (σ := σ) count
  refine Draw.always_after fun coin => Draw.always_ite ?_ ?_
  · intro _
    refine Draw.always_bind hdigits fun whole hwhole => Draw.always_after fun coin =>
      Draw.always_ite ?_ ?_
    · intro _
      refine Draw.always_after fun coin => Draw.always_ite ?_ ?_
      · intro _
        refine Draw.always_after fun places => Draw.always_bind (digits_always places)
          fun fraction hfraction => Draw.always_pure ?_
        have hplaces := places.is_le
        rw [List.length_append, List.length_cons, hwhole.1, hfraction.1]
        omega
      · intro _
        refine Draw.always_pure ?_
        rw [List.length_append, List.length_singleton, hwhole.1]
        omega
    · intro _
      refine Draw.always_pure ?_
      rw [hwhole.1]
      omega
  · intro _
    refine Draw.always_bind hdigits fun fraction hfraction => Draw.always_pure ?_
    rw [List.length_cons, hfraction.1]
    omega

theorem exponent_length : (exponent : Draw σ (List Char)).Always (·.length ≤ 2 + 32) := by
  refine Draw.always_after fun coin => Draw.always_ite ?_ ?_
  · intro _
    refine Draw.always_after fun count => Draw.always_after fun letter =>
      Draw.always_bind sign_length fun sign hsign =>
        Draw.always_bind (digits_always (count + 1)) fun digits hdigits => Draw.always_pure ?_
    have hcount := count.is_le
    rw [List.cons_append, List.length_cons, List.length_append, hdigits.1]
    omega
  · intro _
    exact Draw.always_pure (Nat.zero_le _)

theorem Separator.length_le {last : Option Cell} {separator : Token}
    (h : Separator last separator) : separator.text.length ≤ 1 := by
  cases h <;> simp [empty, cell]

theorem number_length (config : TokenConfig) (query : Text) :
    (number config query : Draw σ Token).Always (·.text.length ≤ longest .number) := by
  refine Draw.always_after fun count => Draw.always_after fun tainted => ?_
  have hcount := count.is_le
  have hliteral : ∀ separator : Token, separator.text.length ≤ 1 →
      Draw.Always (do
        let sign ← sign
        let mantissa ← mantissa (count + 1)
        let exponent ← exponent
        pure (separator ++ uniform tainted (sign ++ mantissa ++ exponent) ++ cell ' ' false) :
          Draw σ Token) (·.text.length ≤ longest .number) := by
    intro separator hseparator
    refine Draw.always_bind sign_length fun sign hsign =>
      Draw.always_bind (mantissa_length (count + 1)) fun mantissa hmantissa =>
        Draw.always_bind exponent_length fun exponent hexponent => Draw.always_pure ?_
    simp only [text_append, List.length_append, cell, uniform, Text.uniform, List.length_map,
      List.length_singleton, longest]
    omega
  cases tainted with
  | true =>
      exact Draw.always_bind (separator_always config.odds _) fun separator hseparator =>
        hliteral separator hseparator.length_le
  | false => exact hliteral empty (Nat.zero_le 1)

theorem lineBody_length (odds : Odds) (bound : Nat) :
    (lineBody odds bound : Draw σ Token).Always (·.text.length ≤ bound + 1) := by
  induction bound with
  | zero => exact Draw.always_after fun ending => Draw.always_pure (Nat.le_refl 1)
  | succ bound ih =>
      refine Draw.always_after fun tainted => Draw.always_after fun char => Draw.always_ite ?_ ?_
      · intro _
        exact Draw.always_pure (Nat.le_add_left 1 _)
      · intro _
        refine Draw.always_bind ih fun body hbody => Draw.always_pure ?_
        have hcell : (cell char tainted).text.length = 1 := rfl
        rw [text_append, List.length_append, hcell]
        omega

theorem lineComment_length (config : TokenConfig) :
    (lineComment config : Draw σ Token).Always (·.text.length ≤ longest .lineComment) := by
  have hopener : (Draw.either ['-', '-'] ['/', '/'] : Draw σ (List Char)).Always (·.length = 2) :=
    Draw.always_either rfl rfl
  refine Draw.always_after fun bound => Draw.always_bind hopener fun opener hopener =>
    Draw.always_bind (lineBody_length config.odds (bound + 1)) fun body hbody =>
      Draw.always_pure ?_
  have hbound := bound.is_le
  simp only [text_append, List.length_append, uniform, Text.uniform, List.length_map, hopener,
    longest]
  omega

theorem closeLevels_length (level : Nat) : (closeLevels level).text.length = 3 * level := by
  induction level with
  | zero => rfl
  | succ level ih =>
      rw [closeLevels_succ]
      simp only [List.length_cons, ih]
      omega

-- Every level that is open at the end takes three more cells.
theorem blockBody_length (odds : Odds) (bound : Nat) (nesting : Nesting) :
    (blockBody odds bound nesting : Draw σ Token).Always
      (·.text.length ≤ bound + 3 * (nesting.level + (bound + nesting.pending) / 2)) := by
  induction bound generalizing nesting with
  | zero =>
      refine Draw.always_pure ?_
      rw [closeLevels_length]
      omega
  | succ bound ih =>
      refine Draw.always_ite (fun _ => Draw.always_pure (Nat.zero_le _)) fun _ =>
        Draw.always_after fun tainted => Draw.always_after fun char =>
          Draw.always_bind (ih (nesting.next ⟨char, tainted⟩)) fun body hbody =>
            Draw.always_pure ?_
      have hlevel := nesting.level_next_le ⟨char, tainted⟩ bound
      rw [text_append, List.length_append, List.length_singleton]
      omega

theorem blockComment_length (config : TokenConfig) :
    (blockComment config : Draw σ Token).Always (·.text.length ≤ longest .blockComment) := by
  refine Draw.always_after fun bound => Draw.always_bind
    (blockBody_length config.odds bound (.opened config.dialect.nestedComments))
      fun body hbody => Draw.always_pure ?_
  have hbound := bound.is_le
  have hlevel : (Nesting.opened config.dialect.nestedComments).level = 1 := rfl
  have hpending : (Nesting.opened config.dialect.nestedComments).pending = 0 := rfl
  simp only [text_append, List.length_append, uniform, Text.uniform, List.length_map,
    List.length_cons, List.length_nil, longest]
  omega

theorem freeForm_length (fuel : Nat) (config : TokenConfig) (query : Text) :
    (freeForm fuel config query : Search σ Token).Always (·.text.length ≤ longest .other) := by
  have hnone : Unquoted [] := ⟨trivial, by simp⟩
  have hcounts : (Draw.atMost 63 : Draw σ _).search.Always (·.val ≤ 63) :=
    Search.always_search fun source => Fin.is_le _
  refine Search.always_bind hcounts fun count hcount =>
    Search.always_bind (lengthen_always Unquoted.concat fuel config.odds (count + 1) hnone)
      fun text htext => Search.always_pure ?_
  have hlength := htext.2
  rw [List.length_nil] at hlength
  have hguarded : (guarded config.guard text).length ≤ text.length + 1 := by
    unfold guarded
    split
    · exact Nat.le_of_eq List.length_append
    · exact Nat.le_succ _
  simp only [longest]
  omega

theorem length_le_of_isBoolean {chars : List Char} (h : isBoolean chars = true) :
    chars.length ≤ 5 := by
  rw [← List.length_map Char.toLower]
  rcases (isBoolean_iff chars).mp h with h | h <;> simp [h]

theorem TruthValue.length_le {last : Option Cell} {token : Token} (h : TruthValue last token) :
    token.text.length ≤ longest .boolean := by
  cases h with
  | clean literal hboolean _ | mixed literal hboolean _ _ =>
      have hlength := length_le_of_isBoolean hboolean
      rw [Text.length_chars] at hlength
      simp only [longest]
      omega
  | tainted separator literal hseparator hboolean _ =>
      have hlength := length_le_of_isBoolean hboolean
      have hseparator := hseparator.length_le
      rw [Text.length_chars] at hlength
      simp only [text_append, List.length_append, longest]
      omega

theorem generate_length (fuel : Nat) (config : TokenConfig) (query : Text) (kind : TokenKind) :
    (generate fuel config query kind : Search σ Token).Always fun token =>
      1 ≤ token.text.length ∧ token.text.length ≤ longest kind := by
  intro source token after hgenerated
  obtain ⟨found, hfits, -⟩ := generate_fits fuel config query kind source token after hgenerated
  refine ⟨List.length_pos_iff.mpr hfits.ne_nil, ?_⟩
  cases kind with
  | stringLiteral =>
      exact Search.always_search (stringLiteral_length config query) _ _ _ hgenerated
  | quotedIdentifier =>
      exact Search.always_search (quotedIdentifier_length config) _ _ _ hgenerated
  | number => exact Search.always_search (number_length config query) _ _ _ hgenerated
  | lineComment => exact Search.always_search (lineComment_length config) _ _ _ hgenerated
  | blockComment => exact Search.always_search (blockComment_length config) _ _ _ hgenerated
  | other => exact freeForm_length fuel config query _ _ _ hgenerated
  | boolean =>
      have htruth := Search.always_search (boolean_always config query) _ _ _ hgenerated
      exact htruth.length_le

end Token

theorem Generator.generate_length {σ : Type} [Source σ] (generator : Generator) (fuel : Nat)
    (query : Text) :
    (generator.generate fuel query : Search σ (TokenKind × Token)).Always fun (_, token) =>
      1 ≤ token.text.length ∧ token.text.length ≤ 513 :=
  Search.always_after fun kind =>
    Search.always_bind (Token.generate_length fuel generator.config query kind)
      fun _ hlength => Search.always_pure
        ⟨hlength.1, Nat.le_trans hlength.2 (Token.longest_le kind)⟩

end QueryTaint
