import QueryTaint.Token.Comment
import QueryTaint.Proofs.Lexis.Delimiters
import QueryTaint.Proofs.Token.Forecast

namespace QueryTaint

namespace Token

open Scan

variable {σ : Type} [Source σ] (dialect : Dialect)

theorem lineBody_leads (odds : Odds) (bound : Nat) :
    (lineBody odds bound : Draw σ Token).Always fun body =>
      (body.expectation = .accept →
        ∃ ending, isLineEnd ending = true ∧ body.text.getLast? = some ⟨ending, false⟩) ∧
      ∀ start first items offset rest,
        Leads dialect .lineComment start rest ⟨offset, .lineComment first, items⟩ body
          ⟨offset + body.text.length, .code true,
            ⟨.lineComment, first, offset + body.text.length⟩ :: items⟩ := by
  induction bound with
  | zero =>
      have hending : (Draw.either '\r' '\n' : Draw σ Char).Always (isLineEnd · = true) :=
        Draw.always_either rfl rfl
      refine Draw.always_bind hending fun ending hending => Draw.always_pure ⟨?_, ?_⟩
      · intro _
        exact ⟨ending, hending, rfl⟩
      · intro start first items offset rest
        exact complete_closeLine dialect offset first items ⟨ending, false⟩ rest rfl hending
  | succ bound ih =>
      refine Draw.always_after fun tainted => Draw.always_after fun char => Draw.always_ite ?_ ?_
      · intro hend
        refine Draw.always_pure ⟨?_, ?_⟩
        · intro haccept
          cases tainted with
          | false => exact ⟨char, hend, rfl⟩
          | true => cases haccept
        · intro start first items offset rest
          cases tainted with
          | false =>
              exact complete_closeLine dialect offset first items ⟨char, false⟩ rest rfl hend
          | true =>
              refine ⟨_, ?_, .lineTerminator offset⟩
              simp [complete_cons, step, hend, violation]
      · intro hend
        refine Draw.always_bind ih fun body hbody => Draw.always_pure ?_
        obtain ⟨hlast, hleads⟩ := hbody
        constructor
        · intro haccept
          obtain ⟨ending, hending, hbody⟩ := hlast haccept
          exact ⟨ending, hending, by simp [List.getLast?_append, hbody]⟩
        · intro start first items offset rest
          have hchar : Leads dialect .lineComment start (body.text ++ rest)
              ⟨offset, .lineComment first, items⟩ (cell char tainted)
              ⟨offset + 1, .lineComment first, items⟩ :=
            complete_lineChar dialect offset first items ⟨char, tainted⟩ _ (by simpa using hend)
          have hboth := hchar.append fun _ => hleads start first items (offset + 1) rest
          simpa [cell, Nat.add_assoc, Nat.add_comm 1] using hboth

theorem lineComment_fits (config : TokenConfig) (before : Option Cell) (offset : Nat) :
    (lineComment config : Draw σ Token).Always fun token =>
      Fits config.dialect .lineComment before offset token
        [⟨.lineComment, offset, offset + token.text.length⟩] := by
  have hopener : (Draw.either ['-', '-'] ['/', '/'] : Draw σ (List Char)).Always fun opener =>
      ∃ mark, (mark = '-' ∨ mark = '/') ∧ opener = [mark, mark] :=
    Draw.always_either ⟨'-', .inl rfl, rfl⟩ ⟨'/', .inr rfl, rfl⟩
  refine Draw.always_after fun bound => Draw.always_bind hopener fun opener hopener =>
    Draw.always_bind (lineBody_leads config.dialect config.odds _) fun body ⟨hlast, hleads⟩ =>
      Draw.always_pure ?_
  obtain ⟨mark, hmark, rfl⟩ := hopener
  refine ⟨by simp [uniform, Text.uniform], ?_, ?_, ?_⟩
  · intro left _ _ right hright
    obtain rfl : _ = right := Option.some.inj hright
    rcases hmark with rfl | rfl <;> simp
  · intro items rest _
    have hopen : Leads config.dialect .lineComment offset (body.text ++ rest)
        ⟨offset, .code (separates before), items⟩ (uniform false [mark, mark])
        ⟨offset + 2, .lineComment offset, items⟩ :=
      complete_openLineComment config.dialect offset _ items mark hmark _
    have hboth := hopen.append fun _ => hleads offset offset items (offset + 2) rest
    refine hboth.congr fun haccept => ?_
    obtain ⟨ending, hending, hbody⟩ := hlast ((append_accepts_iff _ _).mp haccept).2
    have hseparates := separates_lineEnd hending
    simp [uniform, Text.uniform, List.getLast?_cons, hbody, hseparates, Nat.add_assoc,
      Nat.add_comm 2]
  · refine sealed_of_clean config.dialect fun haccept last hmem => ?_
    obtain ⟨ending, hending, hbody⟩ := hlast ((append_accepts_iff _ _).mp haccept).2
    have hfinal : (uniform false [mark, mark] ++ body).text.getLast? = some ⟨ending, false⟩ := by
      simp [List.getLast?_append, hbody]
    obtain rfl : _ = last := Option.some.inj (hfinal.symm.trans hmem)
    rfl

theorem text_closeLevels (level : Nat) : (closeLevels level).text = Nesting.closers level := rfl

theorem closeLevels_succ (level : Nat) :
    (closeLevels (level + 1)).text =
      ⟨' ', false⟩ :: ⟨'*', false⟩ :: ⟨'/', false⟩ :: (closeLevels level).text := by
  rw [text_closeLevels, text_closeLevels, Nesting.closers_succ]

theorem complete_closeLevels (level : Nat) (offset first : Nat) (nesting : Nesting)
    (items : List Item) (hlevel : nesting.level = level + 1) (rest : Text) :
    complete dialect ⟨offset, .blockComment first nesting, items⟩
        ((closeLevels (level + 1)).text ++ rest) =
      complete dialect
        ⟨offset + (closeLevels (level + 1)).text.length, .code true,
          ⟨.blockComment, first, offset + (closeLevels (level + 1)).text.length⟩ :: items⟩
        rest := by
  induction level generalizing offset nesting with
  | zero =>
      rw [closeLevels_succ]
      simp only [List.cons_append]
      rw [complete_blockChar dialect _ _ _ _ _ _ (by simp [Nesting.change]) (by omega),
        complete_blockClose dialect _ _ _ _ _ (by simp [Nesting.change, Half.of]) 0
          (by exact hlevel)]
      rfl
  | succ level ih =>
      rw [closeLevels_succ]
      simp only [List.cons_append]
      rw [complete_blockChar dialect _ _ _ _ _ _ (by simp [Nesting.change]) (by omega),
        complete_blockClose dialect _ _ _ _ _ (by simp [Nesting.change, Half.of]) (level + 1)
          (by exact hlevel),
        if_neg (by simp), ih _ _ rfl]
      have hlength : offset + 1 + 2 + (closeLevels (level + 1)).text.length =
          offset + ((closeLevels (level + 1)).text.length + 1 + 1 + 1) := by omega
      rw [hlength]
      rfl

theorem closeLevels_getLast? (level : Nat) :
    (closeLevels (level + 1)).text.getLast? = some ⟨'/', false⟩ := by
  induction level with
  | zero => rfl
  | succ level ih =>
      rw [closeLevels_succ]
      simp [List.getLast?_cons, ih]

-- Nothing follows what closes the comment.
theorem blockBody_closed (odds : Odds) (bound : Nat) {nesting : Nesting}
    (hclosed : nesting.isClosed = true) :
    (blockBody odds bound nesting : Draw σ Token).Always fun body => body = empty := by
  cases bound with
  | zero =>
      have hlevel : nesting.level = 0 := by simpa [Nesting.isClosed] using hclosed
      refine Draw.always_pure ?_
      rw [hlevel]
      rfl
  | succ bound =>
      refine Draw.always_ite (fun _ => Draw.always_pure rfl) ?_
      intro hopen
      exact absurd hclosed hopen

theorem blockCell_clean {nesting : Nesting} {cell : Cell} {text : Text}
    (h : (⟨text, .given (nesting.taintedChange cell) "tainted block comment nesting"⟩ :
      Token).expectation = .accept) : nesting.taintedChange cell = false := by
  cases hfault : nesting.taintedChange cell with
  | false => rfl
  | true => simp [hfault, Expectation.given] at h

theorem blockCell_leads (start first : Nat) (items : List Item) (offset : Nat) (nesting : Nesting)
    (char : Char) (tainted : Bool) (rest : Text) (after : State)
    (hafter : after =
      if (nesting.next ⟨char, tainted⟩).isClosed then
        ⟨offset + 1, .code true, ⟨.blockComment, first, offset + 1⟩ :: items⟩
      else ⟨offset + 1, .blockComment first (nesting.next ⟨char, tainted⟩), items⟩) :
    Leads dialect .blockComment start rest ⟨offset, .blockComment first nesting, items⟩
      ⟨[⟨char, tainted⟩], .given (nesting.taintedChange ⟨char, tainted⟩)
        "tainted block comment nesting"⟩ after := by
  unfold Leads
  simp only [List.singleton_append, complete_cons, step]
  cases hfault : nesting.taintedChange ⟨char, tainted⟩ with
  | true => exact ⟨_, rfl, .nesting offset⟩
  | false =>
      rw [hafter]
      cases hclosed : (nesting.next ⟨char, tainted⟩).isClosed <;> rfl

theorem blockBody_leads (odds : Odds) (bound : Nat) (nesting : Nesting)
    (hlevel : nesting.level ≠ 0) :
    (blockBody odds bound nesting : Draw σ Token).Always fun body =>
      (body.expectation = .accept → body.text.getLast? = some ⟨'/', false⟩) ∧
      ∀ start first items offset rest,
        Leads dialect .blockComment start rest ⟨offset, .blockComment first nesting, items⟩ body
          ⟨offset + body.text.length, .code true,
            ⟨.blockComment, first, offset + body.text.length⟩ :: items⟩ := by
  induction bound generalizing nesting with
  | zero =>
      obtain ⟨level, hsucc⟩ := Nat.exists_eq_succ_of_ne_zero hlevel
      refine Draw.always_pure ⟨?_, ?_⟩
      · intro _
        rw [hsucc]
        exact closeLevels_getLast? level
      · intro start first items offset rest
        rw [hsucc]
        exact complete_closeLevels dialect level offset first nesting items hsucc rest
  | succ bound ih =>
      have hopen : ¬nesting.isClosed = true := by simpa [Nesting.isClosed] using hlevel
      refine Draw.always_ite (fun hclosed => absurd hclosed hopen) fun _ =>
        Draw.always_after fun tainted => Draw.always_after fun char => ?_
      cases hclosed : (nesting.next ⟨char, tainted⟩).isClosed with
      | true =>
          refine Draw.always_bind (blockBody_closed odds bound hclosed) fun body hempty =>
            Draw.always_pure ⟨?_, ?_⟩
          · intro haccept
            have hclean := blockCell_clean ((append_accepts_iff _ _).mp haccept).1
            rw [hempty, Nesting.eq_slash_of_isClosed hlevel hclosed hclean]
            rfl
          · intro start first items offset rest
            rw [hempty]
            exact (blockCell_leads dialect start first items offset nesting char tainted _ _
              (by simp [hclosed, empty])).append fun _ => leads_empty _ _
      | false =>
          have hnext : (nesting.next ⟨char, tainted⟩).level ≠ 0 := by
            simpa [Nesting.isClosed] using hclosed
          refine Draw.always_bind (ih _ hnext) fun body hbody => Draw.always_pure ?_
          obtain ⟨hlast, hleads⟩ := hbody
          constructor
          · intro haccept
            have hbody := hlast ((append_accepts_iff _ _).mp haccept).2
            rw [text_append, List.getLast?_append, hbody]
            rfl
          · intro start first items offset rest
            have hboth := (blockCell_leads dialect start first items offset nesting char tainted
              (body.text ++ rest) _ (by rw [hclosed]; rfl)).append fun _ =>
                hleads start first items (offset + 1) rest
            simpa [Nat.add_assoc, Nat.add_comm 1] using hboth

theorem blockComment_fits (config : TokenConfig) (before : Option Cell) (offset : Nat) :
    (blockComment config : Draw σ Token).Always fun token =>
      Fits config.dialect .blockComment before offset token
        [⟨.blockComment, offset, offset + token.text.length⟩] := by
  have hbody := fun bound => blockBody_leads (σ := σ) config.dialect config.odds bound
    (.opened config.dialect.nestedComments) (by simp [Nesting.opened])
  refine Draw.always_after fun bound => Draw.always_bind (hbody bound) fun body ⟨hlast, hleads⟩ =>
    Draw.always_pure ⟨by simp [uniform, Text.uniform], ?_, ?_, ?_⟩
  · intro left _ _ right hright
    obtain rfl : _ = right := Option.some.inj hright
    decide
  · intro items rest _
    have hopen : Leads config.dialect .blockComment offset (body.text ++ rest)
        ⟨offset, .code (separates before), items⟩ (uniform false ['/', '*'])
        ⟨offset + 2, .blockComment offset (.opened config.dialect.nestedComments), items⟩ :=
      complete_openBlockComment config.dialect offset _ items _
    have hboth := hopen.append fun _ => hleads offset offset items (offset + 2) rest
    refine hboth.congr fun haccept => ?_
    have hlast := hlast ((append_accepts_iff _ _).mp haccept).2
    have hseparates : separates (some ⟨'/', false⟩) = true := rfl
    simp [uniform, Text.uniform, List.getLast?_cons, hlast, hseparates, Nat.add_assoc,
      Nat.add_comm 2]
  · refine sealed_of_clean config.dialect fun haccept last hmem => ?_
    have hlast := hlast ((append_accepts_iff _ _).mp haccept).2
    have hfinal : (uniform false ['/', '*'] ++ body).text.getLast? = some ⟨'/', false⟩ := by
      simp [List.getLast?_append, hlast]
    obtain rfl : _ = last := Option.some.inj (hfinal.symm.trans hmem)
    rfl

end Token

end QueryTaint
