import QueryTaint.Lexis.Number

namespace QueryTaint.Number

def AllDigits (chars : List Char) : Prop := ∀ char ∈ chars, char.isDigit = true

def Digits (chars : List Char) : Prop := chars ≠ [] ∧ AllDigits chars

inductive Sign : List Char → Prop where
  | none : Sign []
  | some (mark : Char) : mark = '+' ∨ mark = '-' → Sign [mark]

inductive Mantissa : List Char → Prop where
  | whole (whole : List Char) : Digits whole → Mantissa whole
  | point (whole : List Char) : Digits whole → Mantissa (whole ++ ['.'])
  | fraction (whole fraction : List Char) :
    Digits whole → Digits fraction → Mantissa (whole ++ '.' :: fraction)
  | leadingPoint (fraction : List Char) : Digits fraction → Mantissa ('.' :: fraction)

inductive Exponent : List Char → Prop where
  | none : Exponent []
  | some (letter : Char) (sign digits : List Char) :
    letter = 'e' ∨ letter = 'E' → Sign sign → Digits digits → Exponent (letter :: (sign ++ digits))

inductive Literal : List Char → Prop where
  | intro (sign mantissa exponent : List Char) :
    Sign sign → Mantissa mantissa → Exponent exponent → Literal (sign ++ mantissa ++ exponent)

namespace Stage

-- Whether the characters complete a literal.
def completes (stage : Stage) : List Char → Bool
  | [] => stage.accepts
  | char :: rest =>
    match stage.next char with
    | none => false
    | some following => following.completes rest

theorem completes_cons (stage : Stage) (char : Char) (rest : List Char) :
    stage.completes (char :: rest) = true ↔
      ∃ following, stage.next char = some following ∧ following.completes rest = true := by
  simp only [completes]
  cases h : stage.next char <;> simp

theorem longest_eq_length_iff (stage : Stage) (chars : List Char) :
    stage.longest chars = some chars.length ↔ chars ≠ [] ∧ stage.completes chars = true := by
  induction chars generalizing stage with
  | nil => simp [longest]
  | cons char rest ih =>
      simp only [longest, completes, List.length_cons, ne_eq, reduceCtorEq, not_false_eq_true,
        true_and]
      cases hnext : stage.next char with
      | none => simp
      | some following =>
          dsimp only
          have ih := ih following
          cases rest with
          | nil => simp [longest, completes]
          | cons other rest =>
              cases hrest : following.longest (other :: rest) <;> simp_all

end Stage

theorem isLiteral_iff_completes (chars : List Char) :
    isLiteral chars = true ↔ Stage.start.completes chars = true := by
  unfold isLiteral longest?
  rw [decide_eq_true_eq, Stage.longest_eq_length_iff]
  constructor
  · exact And.right
  · intro h
    refine ⟨?_, h⟩
    rintro rfl
    simp [Stage.completes, Stage.accepts] at h

-- Any number of digits and then a rest of the given form.
def DigitsThen (form : List Char → Prop) (chars : List Char) : Prop :=
  ∃ digits rest, AllDigits digits ∧ form rest ∧ chars = digits ++ rest

theorem digitsThen_nil (form : List Char → Prop) : DigitsThen form [] ↔ form [] := by
  constructor
  · rintro ⟨digits, rest, -, hrest, h⟩
    obtain ⟨rfl, rfl⟩ := List.append_eq_nil_iff.mp h.symm
    exact hrest
  · intro h
    exact ⟨[], [], by simp [AllDigits], h, rfl⟩

theorem digitsThen_cons (form : List Char → Prop) (char : Char) (rest : List Char) :
    DigitsThen form (char :: rest) ↔
      char.isDigit = true ∧ DigitsThen form rest ∨ form (char :: rest) := by
  constructor
  · rintro ⟨digits, last, hdigits, hlast, h⟩
    cases digits with
    | nil => exact .inr (h ▸ hlast)
    | cons first digits =>
        obtain ⟨rfl, rfl⟩ := List.cons.inj h
        exact .inl ⟨hdigits char (by simp), digits, last,
          fun other hother => hdigits other (List.mem_cons_of_mem _ hother), hlast, rfl⟩
  · rintro (⟨hchar, digits, last, hdigits, hlast, rfl⟩ | h)
    · refine ⟨char :: digits, last, ?_, hlast, rfl⟩
      intro other hother
      rcases List.mem_cons.mp hother with rfl | hother
      · exact hchar
      · exact hdigits other hother
    · exact ⟨[], char :: rest, by simp [AllDigits], h, rfl⟩

theorem digits_cons (char : Char) (rest : List Char) :
    Digits (char :: rest) ↔ char.isDigit = true ∧ AllDigits rest := by
  simp [Digits, AllDigits]

-- What the grammar still asks for at a stage.
def Stage.Form : Stage → List Char → Prop
  | start => Literal
  | sign => fun chars =>
    ∃ mantissa exponent, Mantissa mantissa ∧ Exponent exponent ∧ chars = mantissa ++ exponent
  | whole => DigitsThen fun rest =>
    Exponent rest ∨ ∃ last, rest = '.' :: last ∧ DigitsThen Exponent last
  | point | fraction => DigitsThen Exponent
  | leadingPoint => fun chars =>
    ∃ char rest, chars = char :: rest ∧ char.isDigit = true ∧ DigitsThen Exponent rest
  | exponent => fun chars => ∃ sign digits, Sign sign ∧ Digits digits ∧ chars = sign ++ digits
  | exponentSign => Digits
  | exponentDigits => AllDigits

theorem sign_then_cons (form : List Char → Prop) (char : Char) (rest : List Char) :
    (∃ sign last, Sign sign ∧ form last ∧ char :: rest = sign ++ last) ↔
      form (char :: rest) ∨ isSign char = true ∧ form rest := by
  constructor
  · rintro ⟨_, last, hsign, hlast, h⟩
    cases hsign with
    | none => exact .inl (by simpa [h] using hlast)
    | some mark hmark =>
        obtain ⟨rfl, rfl⟩ := List.cons.inj h
        exact .inr ⟨isSign_iff.mpr hmark, hlast⟩
  · rintro (h | ⟨hmark, h⟩)
    · exact ⟨[], _, .none, h, rfl⟩
    · exact ⟨[char], _, .some char (isSign_iff.mp hmark), h, rfl⟩

theorem exponent_cons (char : Char) (rest : List Char) :
    Exponent (char :: rest) ↔ isExponent char = true ∧ Stage.exponent.Form rest := by
  constructor
  · intro h
    cases h with
    | some _ sign digits hletter hsign hdigits =>
        exact ⟨isExponent_iff.mpr hletter, sign, digits, hsign, hdigits, rfl⟩
  · rintro ⟨hletter, sign, digits, hsign, hdigits, rfl⟩
    exact .some char sign digits (isExponent_iff.mp hletter) hsign hdigits

-- A mantissa begins with a digit or with a point.
theorem sign_form_cons (char : Char) (rest : List Char) :
    Stage.sign.Form (char :: rest) ↔
      char.isDigit = true ∧ Stage.whole.Form rest ∨ char = '.' ∧ Stage.leadingPoint.Form rest := by
  constructor
  · rintro ⟨mantissa, exponent, hmantissa, hexponent, h⟩
    cases hmantissa with
    | whole _ hwhole =>
        cases mantissa with
        | nil => exact absurd rfl hwhole.1
        | cons first digits =>
            obtain ⟨rfl, rfl⟩ := List.cons.inj h
            obtain ⟨hchar, hdigits⟩ := (digits_cons char digits).mp hwhole
            exact .inl ⟨hchar, digits, exponent, hdigits, .inl hexponent, rfl⟩
    | point whole hwhole =>
        cases whole with
        | nil => exact absurd rfl hwhole.1
        | cons first digits =>
            obtain ⟨rfl, rfl⟩ := List.cons.inj h
            obtain ⟨hchar, hdigits⟩ := (digits_cons char digits).mp hwhole
            refine .inl ⟨hchar, digits, '.' :: exponent, hdigits, .inr ⟨exponent, rfl, ?_⟩, by simp⟩
            exact ⟨[], exponent, by simp [AllDigits], hexponent, rfl⟩
    | fraction whole fraction hwhole hfraction =>
        cases whole with
        | nil => exact absurd rfl hwhole.1
        | cons first digits =>
            obtain ⟨rfl, rfl⟩ := List.cons.inj h
            obtain ⟨hchar, hdigits⟩ := (digits_cons char digits).mp hwhole
            refine .inl ⟨hchar, digits, '.' :: (fraction ++ exponent), hdigits,
              .inr ⟨_, rfl, ?_⟩, by simp⟩
            exact ⟨fraction, exponent, hfraction.2, hexponent, rfl⟩
    | leadingPoint fraction hfraction =>
        cases fraction with
        | nil => exact absurd rfl hfraction.1
        | cons first digits =>
            obtain ⟨rfl, rfl⟩ := List.cons.inj h
            obtain ⟨hfirst, hdigits⟩ := (digits_cons first digits).mp hfraction
            exact .inr ⟨rfl, first, digits ++ exponent, rfl, hfirst, digits, exponent, hdigits,
              hexponent, rfl⟩
  · rintro (⟨hchar, digits, last, hdigits, hlast, rfl⟩ |
      ⟨rfl, first, _, rfl, hfirst, digits, exponent, hdigits, hexponent, rfl⟩)
    · have hwhole : Digits (char :: digits) := (digits_cons char digits).mpr ⟨hchar, hdigits⟩
      rcases hlast with hexponent | ⟨_, rfl, fraction, exponent, hfraction, hexponent, rfl⟩
      · exact ⟨_, last, .whole _ hwhole, hexponent, rfl⟩
      · cases fraction with
        | nil => exact ⟨_, exponent, .point _ hwhole, hexponent, by simp⟩
        | cons first fraction =>
            exact ⟨_, exponent, .fraction _ _ hwhole ⟨by simp, hfraction⟩, hexponent, by simp⟩
    · exact ⟨_, exponent, .leadingPoint _ ((digits_cons first digits).mpr ⟨hfirst, hdigits⟩),
        hexponent, rfl⟩

theorem literal_iff (chars : List Char) :
    Literal chars ↔ ∃ sign last, Sign sign ∧ Stage.sign.Form last ∧ chars = sign ++ last := by
  constructor
  · rintro ⟨sign, mantissa, exponent, hsign, hmantissa, hexponent⟩
    exact ⟨sign, mantissa ++ exponent, hsign, ⟨_, _, hmantissa, hexponent, rfl⟩, by simp⟩
  · rintro ⟨sign, _, hsign, ⟨mantissa, exponent, hmantissa, hexponent, rfl⟩, rfl⟩
    rw [← List.append_assoc]
    exact .intro sign mantissa exponent hsign hmantissa hexponent

theorem Mantissa.ne_nil {mantissa : List Char} (h : Mantissa mantissa) : mantissa ≠ [] := by
  cases h with
  | whole _ hwhole => exact hwhole.1
  | point _ _ => simp
  | fraction _ _ _ _ => simp
  | leadingPoint _ _ => simp

theorem Digits.exists_digit {chars : List Char} (h : Digits chars) :
    ∃ char ∈ chars, char.isDigit = true := by
  obtain ⟨char, rest, rfl⟩ := List.exists_cons_of_ne_nil h.1
  exact ⟨char, by simp, h.2 char (by simp)⟩

theorem Mantissa.exists_digit {mantissa : List Char} (h : Mantissa mantissa) :
    ∃ char ∈ mantissa, char.isDigit = true := by
  cases h with
  | whole _ hwhole => exact hwhole.exists_digit
  | point whole hwhole =>
      obtain ⟨char, hchar, hdigit⟩ := hwhole.exists_digit
      exact ⟨char, by simp [hchar], hdigit⟩
  | fraction whole fraction hwhole _ =>
      obtain ⟨char, hchar, hdigit⟩ := hwhole.exists_digit
      exact ⟨char, by simp [hchar], hdigit⟩
  | leadingPoint fraction hfraction =>
      obtain ⟨char, hchar, hdigit⟩ := hfraction.exists_digit
      exact ⟨char, by simp [hchar], hdigit⟩

theorem Literal.exists_digit {chars : List Char} (h : Literal chars) :
    ∃ char ∈ chars, char.isDigit = true := by
  obtain ⟨sign, mantissa, exponent, -, hmantissa, -⟩ := h
  obtain ⟨char, hchar, hdigit⟩ := hmantissa.exists_digit
  exact ⟨char, by simp [hchar], hdigit⟩

theorem not_isExponent_of_isDigit {char : Char} (h : char.isDigit = true) :
    isExponent char = false := by
  rw [← Bool.not_eq_true, isExponent_iff]
  rintro (rfl | rfl) <;> simp at h

theorem not_isDigit_of_isSign {char : Char} (h : isSign char = true) : char.isDigit = false := by
  rcases isSign_iff.mp h with rfl | rfl <;> rfl

namespace Stage

theorem not_form_sign_nil : ¬sign.Form [] := by
  rintro ⟨mantissa, exponent, hmantissa, -, h⟩
  exact hmantissa.ne_nil (List.append_eq_nil_iff.mp h.symm).1

theorem form_nil (stage : Stage) : stage.Form [] ↔ stage.accepts = true := by
  cases stage with
  | start =>
      simp only [accepts, Bool.false_eq_true, iff_false]
      intro h
      obtain ⟨sign, last, -, hlast, h⟩ := (literal_iff []).mp h
      obtain ⟨-, rfl⟩ := List.append_eq_nil_iff.mp h.symm
      exact not_form_sign_nil hlast
  | sign => simpa [accepts] using not_form_sign_nil
  | leadingPoint => simp [Form, accepts]
  | exponent => simp [Form, accepts, Digits]
  | exponentSign => simp [Form, accepts, Digits]
  | whole => simpa [Form, accepts, digitsThen_nil] using Exponent.none
  | point | fraction => simpa [Form, accepts, digitsThen_nil] using Exponent.none
  | exponentDigits => simp [Form, accepts, AllDigits]

theorem whole_form_cons (char : Char) (rest : List Char) :
    whole.Form (char :: rest) ↔ char.isDigit = true ∧ whole.Form rest ∨
      isExponent char = true ∧ exponent.Form rest ∨ char = '.' ∧ point.Form rest := by
  simp only [Form, digitsThen_cons, exponent_cons, List.cons.injEq]
  refine or_congr_right (or_congr_right ?_)
  constructor
  · rintro ⟨last, ⟨rfl, rfl⟩, hlast⟩
    exact ⟨rfl, hlast⟩
  · rintro ⟨rfl, hlast⟩
    exact ⟨rest, ⟨rfl, rfl⟩, hlast⟩

theorem fraction_form_cons (char : Char) (rest : List Char) :
    fraction.Form (char :: rest) ↔ char.isDigit = true ∧ fraction.Form rest ∨
      isExponent char = true ∧ exponent.Form rest := by
  rw [show fraction.Form = DigitsThen Exponent from rfl, digitsThen_cons, exponent_cons]

theorem leadingPoint_form_cons (char : Char) (rest : List Char) :
    leadingPoint.Form (char :: rest) ↔ char.isDigit = true ∧ fraction.Form rest := by
  constructor
  · rintro ⟨_, _, h, hdigit, hrest⟩
    obtain ⟨rfl, rfl⟩ := List.cons.inj h
    exact ⟨hdigit, hrest⟩
  · rintro ⟨hdigit, hrest⟩
    exact ⟨char, rest, rfl, hdigit, hrest⟩

-- Reading a character is taking it off the front of what the grammar asks for.
theorem form_cons (stage : Stage) (char : Char) (rest : List Char) :
    stage.Form (char :: rest) ↔
      ∃ following, stage.next char = some following ∧ following.Form rest := by
  cases stage with
  | start =>
      have hform : start.Form (char :: rest) ↔ sign.Form (char :: rest) ∨
          isSign char = true ∧ sign.Form rest :=
        (literal_iff _).trans (sign_then_cons _ char rest)
      rw [hform, sign_form_cons]
      simp only [next]
      split
      · rename_i hsign
        have := not_isDigit_of_isSign hsign
        have : char ≠ '.' := by rintro rfl; simp [isSign] at hsign
        simp_all
      · split
        · have : char ≠ '.' := by rintro rfl; simp_all
          simp_all
        · split <;> simp_all
  | sign =>
      rw [sign_form_cons]
      simp only [next]
      split
      · have : char ≠ '.' := by rintro rfl; simp_all
        simp_all
      · split <;> simp_all
  | whole =>
      rw [whole_form_cons]
      simp only [next]
      split
      · rename_i hdigit
        have : char ≠ '.' := by rintro rfl; simp at hdigit
        have := not_isExponent_of_isDigit hdigit
        simp_all
      · split
        · have : isExponent char = false := by simp_all [isExponent]
          simp_all
        · split <;> simp_all
  | point | fraction =>
      have hform := fraction_form_cons char rest
      simp only [Form] at hform ⊢
      rw [hform]
      simp only [next]
      split
      · rename_i hdigit
        have := not_isExponent_of_isDigit hdigit
        simp_all
      · split <;> simp_all
  | leadingPoint =>
      rw [leadingPoint_form_cons]
      simp only [next]
      split <;> simp_all
  | exponent =>
      have hform : exponent.Form (char :: rest) ↔ Digits (char :: rest) ∨
          isSign char = true ∧ Digits rest := sign_then_cons _ char rest
      rw [hform, digits_cons]
      simp only [next]
      split
      · rename_i hsign
        have := not_isDigit_of_isSign hsign
        simp_all [Form]
      · split <;> simp_all [Form]
  | exponentSign | exponentDigits =>
      simp only [next, Form]
      split <;> simp_all [digits_cons, AllDigits]

theorem completes_iff_form (stage : Stage) (chars : List Char) :
    stage.completes chars = true ↔ stage.Form chars := by
  induction chars generalizing stage with
  | nil => exact (form_nil stage).symm
  | cons char rest ih =>
      rw [completes_cons, form_cons]
      simp only [ih]

end Stage

theorem isLiteral_iff (chars : List Char) : isLiteral chars = true ↔ Literal chars := by
  rw [isLiteral_iff_completes, Stage.completes_iff_form, Stage.Form]

end QueryTaint.Number
