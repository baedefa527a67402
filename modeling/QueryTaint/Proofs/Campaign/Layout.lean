import QueryTaint.Proofs.Campaign.History

namespace QueryTaint.Campaign

-- The items of tokens one after another, the first of which stands at `offset`.
inductive Layout : Nat → List Taken → List Item → Prop where
  | nil (offset : Nat) : Layout offset [] []
  | cons {offset : Nat} {taken : Taken} {more : List Taken} {found items : List Item} :
    Token.Yields offset taken.kind taken.token.text found →
      (∀ item ∈ found, Token.Within offset taken.token.text.length item) →
        Layout (offset + taken.token.text.length) more items →
          Layout offset (taken :: more) (found ++ items)

theorem Layout.concat {offset : Nat} {kept : List Taken} {taken : Taken} {items found : List Item}
    (h : Layout offset kept items)
    (hyields : Token.Yields (offset + (kept.flatMap (·.token.text)).length) taken.kind
      taken.token.text found) : Layout offset (kept ++ [taken]) (items ++ found) := by
  induction h with
  | nil offset =>
      have hlayout := Layout.cons hyields hyields.within (.nil _)
      rw [List.append_nil] at hlayout
      exact hlayout
  | cons hfirst hwithin _ ih =>
      rw [List.flatMap_cons, List.length_append, ← Nat.add_assoc] at hyields
      rw [List.append_assoc]
      exact .cons hfirst hwithin (ih hyields)

variable {σ μ : Type} [Source σ] {setup : Setup μ} {steps : List Taken} {iteration : Iteration}

-- A step lengthens both the query and the layout, or neither of them.
theorem Layout.apply {next : Iteration} {taken : Taken} {added items : List Item}
    (hlayout : Layout 0 (Taken.kept steps) items.reverse)
    (hrecorded : Recorded setup steps iteration)
    (hyields : taken.token.expectation = .accept →
      Token.Yields iteration.query.length taken.kind taken.token.text added.reverse)
    (happly : (taken.outcome, next) = (iteration.note taken.kind).apply
      (iteration.query ++ taken.token.text) (settle taken.token.expectation taken.verdict)) :
    Layout 0 (Taken.kept (steps ++ [taken]))
      (if taken.outcome = .advanced then added ++ items else items).reverse := by
  rw [Taken.kept_concat]
  split
  · rename_i houtcome
    rw [houtcome] at happly
    have hplace := hyields (accept_of_advanced happly)
    rw [hrecorded.query, ← Nat.zero_add (List.length _)] at hplace
    rw [List.reverse_append]
    exact hlayout.concat hplace
  · rw [List.append_nil]
    exact hlayout

theorem History.settled_layout (h : History σ setup steps iteration) :
    ∃ items, Settled setup.generator.config.dialect iteration.query items ∧
      Layout 0 (Taken.kept steps) items.reverse := by
  induction h with
  | begin world => exact ⟨[], settled_nil _, .nil 0⟩
  | step fuel world hhistory hgenerated hstep ih =>
      obtain ⟨items, hsettled, hlayout⟩ := ih
      obtain ⟨added, hfits, hyields⟩ := setup.generator.generate_fits _ _ _ _ _ hgenerated
      have happly := apply_of_step hgenerated hstep
      exact ⟨_, settled_apply hsettled hfits happly, hlayout.apply hhistory.recorded hyields happly⟩

-- The query is made of the kept tokens, and the items that the scanner finds in it are laid out as
-- the tokens are.
theorem kept_layout (setup : Setup μ) {steps : List Taken} {iteration : Iteration}
    (h : History σ setup steps iteration) :
    iteration.query = (Taken.kept steps).flatMap (·.token.text) ∧
      ∃ items, scan setup.generator.config.dialect iteration.query = .ok items ∧
        Layout 0 (Taken.kept steps) items := by
  obtain ⟨items, hsettled, hlayout⟩ := h.settled_layout
  refine ⟨h.recorded.query, items.reverse, ?_, hlayout⟩
  have hreads := hsettled.reads [] (not_fuses_nil _)
  rw [List.append_nil] at hreads
  rw [Scan.scan_eq_ok_iff_complete, List.reverse_reverse, hreads]
  rfl

-- Two literals, with a space between the quotes that would make one escape without it. Between them
-- a literal with a tainted opener was dropped.
theorem kept_layout_literals :
    let setup : Setup Unit :=
      ⟨⟨.default, by decide⟩, .reference ⟨false⟩ .reject, 2, by decide⟩
    let literal : Text := .uniform false ['\'', '\'']
    let dropped : Token :=
      ⟨⟨' ', true⟩ :: literal, .violation "tainted string literal opener"⟩
    let separated : Token := ⟨⟨' ', false⟩ :: literal, .accept⟩
    let steps : List Taken :=
      [⟨.stringLiteral, ⟨literal, .accept⟩, .ok (), .advanced⟩,
        ⟨.stringLiteral, dropped, .error (.violation ⟨.unseparatedValue, 2⟩), .rolledBack⟩,
        ⟨.stringLiteral, separated, .ok (), .advanced⟩]
    let iteration : Iteration := ⟨literal ++ separated.text,
      [.token .stringLiteral, .token .stringLiteral, .exception, .token .stringLiteral], 1, 3, 1⟩
    History (List Nat) setup steps iteration ∧
      iteration.query = (Taken.kept steps).flatMap (·.token.text) ∧
      ∃ items, scan ⟨false⟩ iteration.query = .ok items ∧ Layout 0 (Taken.kept steps) items := by
  intro setup literal dropped separated steps iteration
  have hbegin : History (List Nat) setup [] (.start 1) := .begin ⟨[0], (), .none⟩
  have hfirst : History (List Nat) setup (steps.take 1)
      ⟨literal, [.token .stringLiteral], 1, 1, 0⟩ :=
    .step 0 ⟨[0, 0, 1, 1], (), .none⟩ hbegin rfl rfl
  have hdropped : History (List Nat) setup (steps.take 2)
      ⟨literal, [.token .stringLiteral, .token .stringLiteral, .exception], 1, 2, 1⟩ :=
    .step 0 ⟨[0, 0, 0, 1, 1], (), .none⟩ hfirst rfl rfl
  have hsecond : History (List Nat) setup steps iteration :=
    .step 0 ⟨[0, 0, 1, 1, 1], (), .none⟩ hdropped rfl rfl
  exact ⟨hsecond, kept_layout setup hsecond⟩

end QueryTaint.Campaign
