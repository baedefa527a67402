import QueryTaint.Token.Literal
import QueryTaint.Proofs.Token.Forecast

namespace QueryTaint.Token

open Scan

variable {σ : Type} [Source σ] (dialect : Dialect)

theorem sign_always : (sign : Draw σ (List Char)).Always Number.Sign := by
  refine Draw.always_after fun coin => Draw.always_ite ?_ ?_
  · intro _
    have hmark : (Draw.either '+' '-' : Draw σ Char).Always fun mark => mark = '+' ∨ mark = '-' :=
      Draw.always_either (.inl rfl) (.inr rfl)
    exact Draw.always_bind hmark fun mark hmark => Draw.always_pure (.some mark hmark)
  · intro _
    exact Draw.always_pure .none

theorem digit_always : (digit : Draw σ Char).Always (·.isDigit = true) := by
  refine Draw.always_after fun number => Draw.always_pure ?_
  revert number
  decide

theorem digits_always (count : Nat) :
    (digits count : Draw σ (List Char)).Always fun digits =>
      digits.length = count ∧ Number.AllDigits digits :=
  Draw.always_times digit_always count

theorem digits_succ_always (count : Nat) :
    (digits (count + 1) : Draw σ (List Char)).Always Number.Digits :=
  (digits_always (count + 1)).mono fun _ hdigits =>
    ⟨List.ne_nil_of_length_eq_add_one hdigits.1, hdigits.2⟩

theorem mantissa_always (count : Nat) :
    (mantissa (count + 1) : Draw σ (List Char)).Always Number.Mantissa := by
  refine Draw.always_after fun coin => Draw.always_ite ?_ ?_
  · intro _
    refine Draw.always_bind (digits_succ_always count) fun whole hwhole => ?_
    refine Draw.always_after fun coin => Draw.always_ite ?_ ?_
    · intro _
      refine Draw.always_after fun coin => Draw.always_ite ?_ ?_
      · intro _
        refine Draw.always_after fun places =>
          Draw.always_bind (digits_always places) fun fraction hfraction => Draw.always_pure ?_
        cases fraction with
        | nil => exact .point whole hwhole
        | cons first fraction => exact .fraction whole _ hwhole ⟨by simp, hfraction.2⟩
      · intro _
        exact Draw.always_pure (.point whole hwhole)
    · intro _
      exact Draw.always_pure (.whole whole hwhole)
  · intro _
    exact Draw.always_bind (digits_succ_always count) fun fraction hfraction =>
      Draw.always_pure (.leadingPoint fraction hfraction)

theorem exponent_always : (exponent : Draw σ (List Char)).Always Number.Exponent := by
  refine Draw.always_after fun coin => Draw.always_ite ?_ ?_
  · intro _
    have hletter : (Draw.either 'e' 'E' : Draw σ Char).Always fun letter =>
        letter = 'e' ∨ letter = 'E' := Draw.always_either (.inl rfl) (.inr rfl)
    refine Draw.always_after fun count => Draw.always_bind hletter fun letter hletter =>
      Draw.always_bind sign_always fun sign hsign =>
        Draw.always_bind (digits_succ_always count) fun digits hdigits => Draw.always_pure ?_
    exact .some letter sign digits hletter hsign hdigits
  · intro _
    exact Draw.always_pure .none

-- What may come before a tainted value.
inductive Separator (last : Option Cell) : Token → Prop where
  | none : separates last = true → Separator last empty
  | space : separates last = false → Separator last (cell ' ' false)
  | fault : separates last = false →
    Separator last ⟨[], .violation "unseparated tainted value"⟩

theorem separator_always (odds : Odds) (last : Option Cell) :
    (separator odds last : Draw σ Token).Always (Separator last) := by
  refine Draw.always_ite ?_ ?_
  · intro hseparates
    exact Draw.always_pure (.none hseparates)
  · intro hseparates
    have hfalse : separates last = false := by simpa using hseparates
    refine Draw.always_after fun fault => Draw.always_ite ?_ ?_
    · intro _
      exact Draw.always_pure (.fault hfalse)
    · intro _
      exact Draw.always_pure (.space hfalse)

theorem Separator.plain {last : Option Cell} {separator : Token} (h : Separator last separator)
    {text : Text} (hplain : Plain text) : Plain (separator.text ++ text) := by
  cases h with
  | none _ => exact hplain
  | fault _ => exact hplain
  | space _ => exact ⟨fun _ => ⟨by decide, by decide, by simp [opensComment]⟩, hplain⟩

theorem Separator.apart {last : Option Cell} {separator : Token} (h : Separator last separator)
    {text : Text} (hapart : ∀ right ∈ text.head?, right.char ≠ '\'') :
    ∀ right ∈ (separator.text ++ text).head?, right.char ≠ '\'' := by
  cases h with
  | none _ => exact hapart
  | fault _ => exact hapart
  | space _ =>
      intro right hright
      obtain rfl : _ = right := Option.some.inj hright
      decide

theorem Separator.judged {kind : TokenKind} (hkind : kind = .number ∨ kind = .boolean)
    {last : Option Cell} {separator token : Token} (h : Separator last separator) (offset : Nat)
    {run : List Char} (hvalue : isValue run = true) {rest : Text}
    (hclean : ∀ cell ∈ rest, cell.tainted = false)
    (htext : token.text = separator.text ++ (Text.uniform true run ++ rest))
    (hexpected : token.expectation = separator.expectation) : Judged kind last offset token := by
  unfold Judged
  rw [htext, hexpected]
  cases h with
  | none hseparates =>
      have hjudged := Text.checkRunsAfter_value last offset hvalue hclean
      rw [hseparates] at hjudged
      exact hjudged
  | space _ =>
      have hjudged := Text.checkRunsAfter_value (some ⟨' ', false⟩) (offset + 1) hvalue hclean
      exact (Text.checkRunsAfter_clean last offset _ rfl).trans hjudged
  | fault hseparates =>
      have hjudged := Text.checkRunsAfter_value last offset hvalue hclean
      rw [hseparates] at hjudged
      exact ⟨_, hjudged, .unseparated kind hkind⟩

theorem isValue_apart {text rest : Text} (h : isValue text.chars = true) :
    ∀ right ∈ (text ++ rest).head?, right.char ≠ '\'' := by
  intro right hright
  cases text with
  | nil => cases h
  | cons first text =>
      obtain rfl : first = right := Option.some.inj hright
      exact (isValue_mem h (List.mem_cons_self ..)).1

-- Of the parts of a number only what separates it can be at fault.
theorem expectation_between (separator : Token) (tainted : Bool) (run : List Char) :
    (separator ++ uniform tainted run ++ cell ' ' false).expectation = separator.expectation := by
  simp only [expectation_append, uniform, cell, Expectation.both_accept]

-- The literal of a number with what stands around it.
theorem fits_of_value {last : Option Cell} {separator : Token} {tainted : Bool} (offset : Nat)
    {run : List Char} (hvalue : isValue run = true)
    (hseparator : tainted = true ∧ Separator last separator ∨ tainted = false ∧ separator = empty) :
    Fits dialect .number last offset (separator ++ uniform tainted run ++ cell ' ' false)
      (values offset (separator ++ uniform tainted run ++ cell ' ' false).text).reverse := by
  have htext : (separator ++ uniform tainted run ++ cell ' ' false).text =
      separator.text ++ (Text.uniform tainted run ++ [⟨' ', false⟩]) := List.append_assoc ..
  have hexpected := expectation_between separator tainted run
  have hlast : (separator ++ uniform tainted run ++ cell ' ' false).text.getLast? =
      some ⟨' ', false⟩ := by
    rw [htext, ← List.append_assoc]
    exact List.getLast?_concat
  have hplain : Plain (Text.uniform tainted run ++ [⟨' ', false⟩]) := by
    refine plain_of_isValue [] (by simpa using hvalue) ?_
    exact ⟨fun _ => ⟨by decide, by decide, by simp⟩, trivial⟩
  have hapart : ∀ right ∈ (Text.uniform tainted run ++ [⟨' ', false⟩] : Text).head?,
      right.char ≠ '\'' := isValue_apart (by simpa using hvalue)
  apply fits_of_judged dialect .number
  · simp [cell]
  · rw [htext]
    rcases hseparator with ⟨-, h⟩ | ⟨-, rfl⟩
    · exact h.apart hapart
    · exact hapart
  · rw [htext]
    rcases hseparator with ⟨-, h⟩ | ⟨-, rfl⟩
    · exact h.plain hplain
    · exact hplain
  · intro other hother _
    obtain rfl : _ = other := Option.some.inj (hlast.symm.trans hother)
    exact ⟨by decide, by decide⟩
  · rcases hseparator with ⟨rfl, h⟩ | ⟨rfl, rfl⟩
    · exact h.judged (.inl rfl) offset hvalue (by simp) htext hexpected
    · have hclean : ∀ other ∈ Text.uniform false run ++ [⟨' ', false⟩], other.tainted = false :=
        List.forall_mem_append.mpr ⟨fun _ => Text.tainted_of_mem_uniform, by simp⟩
      refine Text.checkRunsAfter_of_clean last offset ?_
      rw [htext]
      exact hclean
  · refine sealed_of_clean dialect fun _ other hother => ?_
    obtain rfl : _ = other := Option.some.inj (hlast.symm.trans hother)
    rfl

-- A number as it is drawn. What separates it comes only before a tainted one.
inductive Numeral (last : Option Cell) : Token → Prop where
  | clean (literal : List Char) :
    Number.Literal literal → Numeral last (uniform false literal ++ cell ' ' false)
  | tainted (separator : Token) (literal : List Char) :
    Separator last separator → Number.Literal literal →
      Numeral last (separator ++ uniform true literal ++ cell ' ' false)

theorem number_always (config : TokenConfig) (query : Text) :
    (number config query : Draw σ Token).Always (Numeral query.getLast?) := by
  refine Draw.always_after fun count => Draw.always_after fun tainted => ?_
  -- Whether there is a separator or not, the draws go on in the same way.
  have hliteral : ∀ separator : Token,
      (∀ literal, Number.Literal literal →
        Numeral query.getLast? (separator ++ uniform tainted literal ++ cell ' ' false)) →
        Draw.Always (do
          let sign ← sign
          let mantissa ← mantissa (count + 1)
          let exponent ← exponent
          pure (separator ++ uniform tainted (sign ++ mantissa ++ exponent) ++ cell ' ' false) :
            Draw σ Token) (Numeral query.getLast?) := by
    intro separator hnumeral
    exact Draw.always_bind sign_always fun sign hsign =>
      Draw.always_bind (mantissa_always count) fun mantissa hmantissa =>
        Draw.always_bind exponent_always fun exponent hexponent => Draw.always_pure
          (hnumeral _ (.intro sign mantissa exponent hsign hmantissa hexponent))
  cases tainted with
  | true =>
      exact Draw.always_bind (separator_always config.odds _) fun separator hseparator =>
        hliteral separator fun literal => .tainted separator literal hseparator
  | false => exact hliteral empty .clean

theorem isValue_of_literal {literal : List Char} (h : Number.Literal literal) :
    isValue literal = true := by
  rw [isValue, Bool.or_eq_true, Number.isLiteral_iff]
  exact .inl h

theorem Numeral.fits {last : Option Cell} {token : Token} (h : Numeral last token) (offset : Nat) :
    Fits dialect .number last offset token (values offset token.text).reverse := by
  cases h with
  | clean literal hliteral =>
      exact fits_of_value dialect offset (isValue_of_literal hliteral)
        (.inr ⟨rfl, rfl⟩)
  | tainted separator literal hseparator hliteral =>
      exact fits_of_value dialect offset (isValue_of_literal hliteral)
        (.inl ⟨rfl, hseparator⟩)

theorem spell_always (odds : Odds) (tainted : Bool) {word : List Char}
    (hword : ∀ char ∈ word, char.toUpper.toLower = char ∧ char.toLower = char) :
    (spell odds tainted word : Draw σ Text).Always fun text =>
      text.chars.map Char.toLower = word := by
  induction word with
  | nil => exact Draw.always_pure rfl
  | cons char word ih =>
      obtain ⟨hupper, hlower⟩ := hword char (by simp)
      have hletter : (Draw.either char.toUpper char : Draw σ Char).Always (·.toLower = char) :=
        Draw.always_either hupper hlower
      refine Draw.always_after fun noise => Draw.always_bind hletter fun letter hletter =>
        Draw.always_bind (ih fun other hother => hword other (List.mem_cons_of_mem _ hother))
          fun text htext => Draw.always_pure ?_
      simp only [Text.chars, List.map_cons, hletter]
      exact congrArg (char :: ·) htext

theorem ne_nil_of_isBoolean {text : Text} (h : isBoolean text.chars = true) : text ≠ [] := by
  rintro rfl
  cases h

theorem isValue_of_isBoolean {chars : List Char} (h : isBoolean chars = true) :
    isValue chars = true := by
  rw [isValue, h, Bool.or_true]

theorem boolean_apart {text : Text} (h : isBoolean text.chars = true) :
    ∀ right ∈ text.head?, right.char ≠ '\'' := by
  have hapart : ∀ right ∈ (text ++ []).head?, right.char ≠ '\'' :=
    isValue_apart (isValue_of_isBoolean h)
  rwa [List.append_nil] at hapart

theorem boolean_plain {text : Text} (h : isBoolean text.chars = true) : Plain text := by
  have hplain : Plain (text ++ []) := plain_of_isValue [] (isValue_of_isBoolean h) trivial
  rwa [List.append_nil] at hplain

theorem boolean_last {text : Text} (h : isBoolean text.chars = true) :
    ∀ last ∈ text.getLast?, last.tainted = false → last.char ≠ '-' ∧ last.char ≠ '/' := by
  intro last hlast _
  have hmem : last.char ∈ text.chars := List.mem_map_of_mem (List.mem_of_getLast? hlast)
  have hletter := isBoolean_toLower_mem h hmem
  constructor
  · intro hchar
    rw [hchar] at hletter
    exact absurd hletter (by decide)
  · exact (isValue_mem (isValue_of_isBoolean h) hmem).2.2.1

-- A tainted truth value that goes on is no value.
theorem complete_booleanRun (offset : Nat) (items : List Item) {chars : List Char}
    (h : isBoolean chars = true) {next : Cell} (rest : Text) (htainted : next.tainted = true) :
    complete dialect ⟨offset, .code true, items⟩ (Text.uniform true chars ++ next :: rest) =
      .error (.violation ⟨.invalidValue, offset⟩) := by
  obtain ⟨more, tail, rfl, hrun, htail⟩ := Text.exists_run_cons rest htainted
  cases chars with
  | nil => cases h
  | cons char chars =>
      have hall : ∀ cell ∈ ⟨char, true⟩ :: (Text.uniform true chars ++ next :: more),
          cell.tainted = true := by
        intro cell hcell
        rcases List.mem_append.mp (show cell ∈ Text.uniform true (char :: chars) ++ next :: more
          from hcell) with hcell | hcell
        · exact Text.tainted_of_mem_uniform hcell
        · exact hrun cell hcell
      have hfault : valueFault? true
          (Text.chars (⟨char, true⟩ :: (Text.uniform true chars ++ next :: more))) =
            some .invalidValue := by
        have hvalue := not_isValue_boolean_append h (List.cons_ne_nil next.char (Text.chars more))
        have hchars : Text.chars (⟨char, true⟩ :: (Text.uniform true chars ++ next :: more)) =
            char :: chars ++ next.char :: Text.chars more := by
          have hword := Text.chars_uniform true (char :: chars)
          rw [← List.cons_append]
          exact (Text.chars_append ..).trans (congrArg (· ++ _) hword)
        rw [hchars, valueFault?, hvalue]
        rfl
      have hcomplete := complete_taintedRun dialect offset true items ⟨char, true⟩ _ tail hall htail
      rw [hfault] at hcomplete
      simpa [Text.uniform] using hcomplete

theorem cleanBoolean_fits (before : Option Cell) (offset : Nat) {literal : Text}
    (h : isBoolean literal.chars = true) (hclean : ∀ cell ∈ literal, cell.tainted = false) :
    Fits dialect .boolean before offset ⟨literal, .accept⟩ (values offset literal).reverse := by
  apply fits_of_judged dialect .boolean (ne_nil_of_isBoolean h) (boolean_apart h) (boolean_plain h)
    (boolean_last h)
  · exact Text.checkRunsAfter_of_clean before offset hclean
  · exact sealed_of_clean dialect fun _ last hlast => hclean last (List.mem_of_getLast? hlast)

-- The run of a tainted truth value is all that stands after its separator.
theorem Separator.sealed_boolean {before : Option Cell} {separator : Token}
    (hseparator : Separator before separator) (offset : Nat) {literal : Text}
    (h : isBoolean literal.chars = true) (htainted : ∀ cell ∈ literal, cell.tainted = true) :
    Sealed dialect before offset (separator ++ ⟨literal, .accept⟩) := by
  intro haccept last _ _
  obtain ⟨haccept, -⟩ := (append_accepts_iff _ _).mp haccept
  have hrun : ∀ rest : Text, (separator ++ ⟨literal, .accept⟩).text ++ rest =
      separator.text ++ (Text.uniform true literal.chars ++ rest) := by
    intro rest
    rw [text_append, List.append_assoc, ← Text.eq_uniform htainted]
  refine ⟨separator.text, literal, rfl, ne_nil_of_isBoolean h, htainted, ?_, ?_⟩
  · intro cell hcell
    cases hseparator with
    | none hseparates => exact clean_of_separates hseparates cell hcell
    | space _ =>
        obtain rfl : _ = cell := Option.some.inj hcell
        rfl
    | fault _ => cases haccept
  · intro items next rest hnext
    rw [hrun]
    cases hseparator with
    | none hseparates =>
        rw [hseparates]
        exact complete_booleanRun dialect offset items h rest hnext
    | space _ =>
        refine Eq.trans ?_ (complete_booleanRun dialect (offset + 1) items h rest hnext)
        exact complete_plain dialect offset _ items ⟨' ', false⟩ _ rfl (by decide) (by decide)
          (by simp [opensComment])
    | fault _ => cases haccept

theorem taintedBoolean_fits (before : Option Cell) (offset : Nat) {separator : Token}
    (hseparator : Separator before separator) {literal : Text} (h : isBoolean literal.chars = true)
    (htainted : ∀ cell ∈ literal, cell.tainted = true) :
    Fits dialect .boolean before offset (separator ++ ⟨literal, .accept⟩)
      (values offset (separator ++ ⟨literal, .accept⟩).text).reverse := by
  have hne := ne_nil_of_isBoolean h
  have hempty : ∀ cell ∈ ([] : Text), cell.tainted = false := by simp
  have huniform := Text.eq_uniform htainted
  have hexpected : (separator ++ ⟨literal, .accept⟩).expectation = separator.expectation :=
    Expectation.both_accept _
  have hlast : (separator ++ ⟨literal, .accept⟩).text.getLast? = literal.getLast? := by
    rw [text_append, List.getLast?_append, List.getLast?_eq_some_getLast hne]
    rfl
  apply fits_of_judged dialect .boolean
  · simp [hne]
  · exact hseparator.apart (boolean_apart h)
  · exact hseparator.plain (boolean_plain h)
  · rw [hlast]
    exact boolean_last h
  · refine hseparator.judged (.inr rfl) offset (isValue_of_isBoolean h) hempty ?_ hexpected
    rw [← huniform, List.append_nil]
    rfl
  · exact hseparator.sealed_boolean dialect offset h htainted

theorem mixedBoolean_fits (before : Option Cell) (offset : Nat) {literal : Text}
    (h : isBoolean literal.chars = true) (hsome : ∃ cell ∈ literal, cell.tainted = true)
    (hnotAll : ¬∀ cell ∈ literal, cell.tainted = true) :
    Fits dialect .boolean before offset ⟨literal, .violation "partially tainted boolean"⟩
      (values offset literal).reverse := by
  apply fits_of_judged dialect .boolean (ne_nil_of_isBoolean h) (boolean_apart h) (boolean_plain h)
    (boolean_last h)
  · change ∃ found, literal.checkRunsAfter before offset = .error found ∧ _
    cases hjudged : literal.checkRunsAfter before offset with
    | error found => exact ⟨found, rfl, .mixedBoolean found (Text.checkRunsAfter_kind hjudged)⟩
    | ok _ =>
        obtain ⟨run, hpart, hrun, hvalue⟩ := Text.exists_value_of_checkRunsAfter hjudged hsome
        have hchars := eq_of_isValue_part h (hpart.map Cell.char) hvalue
        have hlength : run.length = literal.length := by
          simpa [Text.chars] using congrArg List.length hchars
        rw [hpart.eq_of_length hlength] at hrun
        exact absurd hrun hnotAll
  · intro haccept
    cases haccept

-- A truth value as it is drawn.
inductive TruthValue (last : Option Cell) : Token → Prop where
  | clean (literal : Text) :
    isBoolean literal.chars = true → (∀ cell ∈ literal, cell.tainted = false) →
      TruthValue last ⟨literal, .accept⟩
  | tainted (separator : Token) (literal : Text) :
    Separator last separator → isBoolean literal.chars = true →
      (∀ cell ∈ literal, cell.tainted = true) → TruthValue last (separator ++ ⟨literal, .accept⟩)
  | mixed (literal : Text) :
    isBoolean literal.chars = true → (∃ cell ∈ literal, cell.tainted = true) →
      (¬∀ cell ∈ literal, cell.tainted = true) →
        TruthValue last ⟨literal, .violation "partially tainted boolean"⟩

theorem boolean_always (config : TokenConfig) (query : Text) :
    (boolean config query : Draw σ Token).Always (TruthValue query.getLast?) := by
  have hword : (Draw.either ['t', 'r', 'u', 'e'] ['f', 'a', 'l', 's', 'e'] :
      Draw σ (List Char)).Always fun word =>
        word = ['t', 'r', 'u', 'e'] ∨ word = ['f', 'a', 'l', 's', 'e'] :=
    Draw.always_either (.inl rfl) (.inr rfl)
  refine Draw.always_after fun tainted => Draw.always_bind hword fun word hword => ?_
  have hletters : ∀ char ∈ word, char.toUpper.toLower = char ∧ char.toLower = char := by
    rcases hword with rfl | rfl <;> simp
  refine Draw.always_bind (spell_always config.odds tainted hletters) fun literal hliteral => ?_
  have hboolean : isBoolean literal.chars = true := by
    rw [isBoolean_iff, hliteral]
    exact hword
  refine Draw.always_ite ?_ fun hsome => Draw.always_ite ?_ ?_
  · intro hnone
    have hclean : ∀ cell ∈ literal, cell.tainted = false := by
      simpa [Text.taintCount, List.countP_eq_zero] using hnone
    exact Draw.always_pure (.clean literal hboolean hclean)
  · intro hall
    have htainted : ∀ cell ∈ literal, cell.tainted = true := List.countP_eq_length.mp hall
    exact Draw.always_bind (separator_always config.odds _) fun separator hseparator =>
      Draw.always_pure (.tainted separator literal hseparator hboolean htainted)
  · intro hnotAll
    have hsome : ∃ cell ∈ literal, cell.tainted = true := by
      simpa [Text.taintCount, List.countP_eq_zero] using hsome
    exact Draw.always_pure (.mixed literal hboolean hsome fun htainted =>
      hnotAll (List.countP_eq_length.mpr htainted))

theorem TruthValue.fits {last : Option Cell} {token : Token} (h : TruthValue last token)
    (offset : Nat) :
    Fits dialect .boolean last offset token (values offset token.text).reverse := by
  cases h with
  | clean literal hboolean hclean => exact cleanBoolean_fits dialect _ _ hboolean hclean
  | tainted separator literal hseparator hboolean htainted =>
      exact taintedBoolean_fits dialect _ _ hseparator hboolean htainted
  | mixed literal hboolean hsome hnotAll =>
      exact mixedBoolean_fits dialect _ _ hboolean hsome hnotAll

end QueryTaint.Token
