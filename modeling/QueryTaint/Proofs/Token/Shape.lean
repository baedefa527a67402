import QueryTaint.Proofs.Token.Length
import QueryTaint.Proofs.Campaign.Prediction

namespace QueryTaint

namespace Guard

theorem mem_foldl_add (extra : List Char) (guard : Guard) (char : Char) :
    char ∈ (extra.foldl add guard).chars ↔ char ∈ guard.chars ∨ char ∈ extra := by
  induction extra generalizing guard with
  | nil => simp
  | cons first extra ih =>
      rw [List.foldl_cons, ih, add]
      split
      · rename_i hfirst
        simp only [List.mem_cons]
        constructor
        · exact Or.imp_right .inr
        · rintro (h | rfl | h)
          · exact .inl h
          · exact .inl hfirst
          · exact .inr h
      · simp [or_assoc]

theorem mem_withExtra (extra : List Char) (char : Char) :
    char ∈ (withExtra extra).chars ↔ char ∈ ['/', '*', '-'] ∨ char ∈ extra :=
  mem_foldl_add extra ⟨base, List.Subset.refl _⟩ char

end Guard

namespace Token

theorem Free.concat {query text : Text} {cell : Cell} (h : Free query text)
    (haccepts : refuses query.getLast? text cell.char = false) : Free query (text ++ [cell]) := by
  simp only [refuses, Bool.or_eq_false_iff, decide_eq_false_iff_not] at haccepts
  obtain ⟨⟨⟨hquote, hmark⟩, -⟩, hdelimiter⟩ := haccepts
  constructor
  · intro other hother
    rcases List.mem_append.mp hother with hother | hother
    · exact h.quote_ne other hother
    · obtain rfl := List.mem_singleton.mp hother
      exact ⟨hquote, hmark⟩
  · rw [Text.chars_append, ← List.cons_append]
    refine h.apart.append (.singleton _) fun last hlast next hnext => ?_
    obtain rfl : cell.char = next := Option.some.inj hnext
    have hend : ((text.getLast?.or query.getLast?).map Cell.char).getD ' ' = last := by
      rw [List.getLast?_cons, Text.chars, List.getLast?_map] at hlast
      rw [← Option.some.inj hlast]
      cases text.getLast? <;> rfl
    rw [← hend]
    exact hdelimiter

-- Neither truth value stands in the text, in any mixture of cases.
def Wordless (text : Text) : Prop :=
  ∀ word ∈ [['t', 'r', 'u', 'e'], ['f', 'a', 'l', 's', 'e']],
    ¬word <:+: text.chars.map Char.toLower

theorem eq_of_toLower_eq {char : Char} (h : char.toLower = 'e') : char = 'e' ∨ char = 'E' := by
  unfold Char.toLower at h
  split at h
  · have hsum : char.val + ('a'.val - 'A'.val) = 'E'.val + ('a'.val - 'A'.val) :=
      congrArg Char.val h
    exact .inr (Char.ext ((UInt32.add_left_inj _).mp hsum))
  · exact .inl h

theorem endsWithIgnoringCase_iff (text : Text) {ending : List Char}
    (hlower : ending.map Char.toLower = ending) :
    text.endsWithIgnoringCase ending = true ↔ ending <:+ text.chars.map Char.toLower := by
  rw [Text.endsWithIgnoringCase, hlower, List.isSuffixOf_iff_suffix]

-- The last letter of a truth value is refused where the others stand before it.
theorem refuses_lastLetter (before : Option Cell) {text : Text} {front : List Char} {char : Char}
    (hfront : front = ['t', 'r', 'u'] ∨ front = ['f', 'a', 'l', 's'])
    (hends : front <:+ text.chars.map Char.toLower) (hchar : char.toLower = 'e') :
    refuses before text char = true := by
  have hletter := eq_of_toLower_eq hchar
  have hfound : text.endsWithIgnoringCase front = true := by
    refine (endsWithIgnoringCase_iff text ?_).mpr hends
    rcases hfront with rfl | rfl <;> rfl
  rcases hfront with rfl | rfl <;> simp [refuses, hfound, hletter]

theorem Wordless.concat {before : Option Cell} {text : Text} {cell : Cell} (h : Wordless text)
    (haccepts : refuses before text cell.char = false) : Wordless (text ++ [cell]) := by
  intro word hword hinfix
  obtain ⟨front, rfl, hfront⟩ : ∃ front, word = front ++ ['e'] ∧
      (front = ['t', 'r', 'u'] ∨ front = ['f', 'a', 'l', 's']) := by
    rcases List.mem_cons.mp hword with rfl | hword
    · exact ⟨['t', 'r', 'u'], rfl, .inl rfl⟩
    · obtain rfl := List.mem_singleton.mp hword
      exact ⟨['f', 'a', 'l', 's'], rfl, .inr rfl⟩
  rw [Text.chars_append, List.map_append] at hinfix
  rcases List.infix_concat_iff.mp hinfix with hsuffix | hbefore
  · have hlength : ['e'].length = [cell.char.toLower].length := rfl
    obtain ⟨hends, hlast⟩ := (List.suffix_append_inj_of_length_eq hlength).mp hsuffix
    have hrefuses := refuses_lastLetter before hfront hends (List.singleton_inj.mp hlast).symm
    rw [hrefuses] at haccepts
    cases haccepts
  · exact h _ hword hbefore

variable {σ : Type} [Source σ]

-- The text and what bounds its end.
theorem freeForm_always (fuel : Nat) (config : TokenConfig) (query : Text) :
    (freeForm fuel config query : Search σ Token).Always fun token =>
      (Free query token.text ∧ Wordless token.text) ∧
        ∀ last ∈ token.text.getLast?,
          last.tainted = false ∧ (last.char = ' ' ∨ config.guard.requires last.char = false) := by
  have hkeeps : ∀ {text : Text} {cell : Cell}, Free query text ∧ Wordless text →
      refuses query.getLast? text cell.char = false →
        Free query (text ++ [cell]) ∧ Wordless (text ++ [cell]) :=
    fun h haccepts => ⟨h.1.concat haccepts, h.2.concat haccepts⟩
  have hnone : Free query [] ∧ Wordless [] :=
    ⟨⟨by simp, .singleton _⟩, by simp [Wordless, Text.chars]⟩
  exact Search.always_after fun count =>
    Search.always_bind (lengthen_always hkeeps fuel config.odds (count + 1) hnone)
      fun text htext => Search.always_pure
        ⟨guarded_keeps query.getLast? hkeeps config.guard htext.1, guarded_end config.guard text⟩

-- A free-form token has no quote in it and forms no comment delimiter and no truth value. It ends
-- in a clean character, a space or one that the guard lets stand before the next token.
theorem freeForm_shape (fuel : Nat) (config : TokenConfig) (query : Text) (source : σ)
    {token : Token} {after : σ}
    (h : generate fuel config query .other source = some (token, after)) :
    (1 ≤ token.text.length ∧ token.text.length ≤ 65) ∧
      (∀ cell ∈ token.text, cell.char ≠ '\'' ∧ cell.char ≠ '"') ∧
      (∀ word ∈ [['t', 'r', 'u', 'e'], ['f', 'a', 'l', 's', 'e']],
        ¬word <:+: token.text.chars.map Char.toLower) ∧
      List.IsChain (fun first second => formsDelimiter first second = false)
        ((query.getLast?.map Cell.char).getD ' ' :: token.text.chars) ∧
      (∃ last, token.text.getLast? = some last ∧ last.tainted = false ∧
        (last.char ≠ ' ' → last.char.isDigit = false ∧ last.char ∉ config.guard.chars)) ∧
      ∀ extra, config.guard = .withExtra extra → ∀ char,
        char ∈ config.guard.chars ↔ char ∈ ['/', '*', '-'] ∨ char ∈ extra := by
  have hlength := generate_length fuel config query .other source token after h
  obtain ⟨⟨hfree, hwordless⟩, hend⟩ := freeForm_always fuel config query source token after h
  have hlast := List.getLast?_eq_some_getLast (List.length_pos_iff.mp hlength.1)
  refine ⟨hlength, hfree.quote_ne, hwordless, hfree.apart, ⟨_, hlast, ?_⟩, ?_⟩
  · obtain ⟨hclean, hspace⟩ := hend _ hlast
    exact ⟨hclean, fun hne => (config.guard.not_requires_iff _).mp (hspace.resolve_left hne)⟩
  · rintro extra hguard char
    rw [hguard]
    exact Guard.mem_withExtra extra char

-- A star after the slash is refused, and the last character is one of the extra ones of the guard.
theorem freeForm_shape_guarded :
    let config : TokenConfig := { TokenConfig.default with guard := .withExtra ['x'] }
    let query : Text := .uniform false ['q', '/']
    let token : Token := ⟨.uniform false ['t', 'x', ' '], .accept⟩
    generate 2 config query .other [1, 1, 1, 79, 1, 1, 19, 1, 1, 23] =
        some (token, ([] : List Nat)) ∧
      List.IsChain (fun first second => formsDelimiter first second = false)
        ['/', 't', 'x', ' '] ∧
      ∀ char, char ∈ config.guard.chars ↔ char ∈ ['/', '*', '-'] ∨ char ∈ ['x'] := by
  intro config query token
  have hgenerated : generate 2 config query .other [1, 1, 1, 79, 1, 1, 19, 1, 1, 23] =
      some (token, ([] : List Nat)) := by
    decide +kernel
  obtain ⟨-, -, -, hapart, -, hguard⟩ := freeForm_shape 2 config query _ hgenerated
  exact ⟨hgenerated, hapart, hguard ['x'] rfl⟩

end Token

end QueryTaint
