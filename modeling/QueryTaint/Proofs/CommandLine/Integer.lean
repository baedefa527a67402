import QueryTaint.CommandLine.Setting
import QueryTaint.Proofs.Text.Numeral
import Mathlib.Data.List.Forall2
import Mathlib.Data.Nat.Digits.Defs

namespace QueryTaint.Integer

-- A digit of a base of at most sixteen, in either case.
def IsDigit (base : Nat) (char : Char) (value : Nat) : Prop :=
  value < base ∧ (char = value.digitChar ∨ char = value.digitChar.toUpper)

-- A nonempty run of digits, the highest first, and its positional value.
def Numeral (base : Nat) (digits : List Char) (value : Nat) : Prop :=
  digits ≠ [] ∧ ∃ values, List.Forall₂ (IsDigit base) digits values ∧
    value = Nat.ofDigits base values.reverse

-- What may follow a sign. A zero before other digits makes them octal.
inductive Unsigned : List Char → Nat → Prop where
  | hexadecimal {mark digits : List Char} {value : Nat} :
    mark ∈ [['0', 'x'], ['0', 'X'], ['#']] → Numeral 16 digits value →
      Unsigned (mark ++ digits) value
  | octal {digits : List Char} {value : Nat} :
    Numeral 8 digits value → Unsigned ('0' :: digits) value
  | decimal {digits : List Char} {value : Nat} :
    digits = ['0'] ∨ digits.head? ≠ some '0' → Numeral 10 digits value → Unsigned digits value

inductive Literal : List Char → Int → Prop where
  | unsigned {body : List Char} {value : Nat} : Unsigned body value → Literal body value
  | plus {body : List Char} {value : Nat} : Unsigned body value → Literal ('+' :: body) value
  | minus {body : List Char} {value : Nat} : Unsigned body value → Literal ('-' :: body) (-value)

-- The values of 64 bits with a sign: there is one more below zero than above it.
def Fits (value : Int) : Prop := -2 ^ 63 ≤ value ∧ value ≤ 2 ^ 63 - 1

theorem inRange_iff (value : Int) : inRange value = true ↔ Fits value := by
  simp [inRange, Fits]

section Digits

variable {base value : Nat} {char : Char}

theorem digitValue?_eq_some_iff (hbase : base ≤ 16) :
    digitValue? base char = some value ↔ value < base ∧ digitValue? 16 char = some value := by
  simp only [digitValue?, Option.filter_eq_some_iff, decide_eq_true_eq]
  constructor
  · rintro ⟨hvalue, hlt⟩
    exact ⟨hlt, hvalue, by omega⟩
  · rintro ⟨hlt, hvalue, -⟩
    exact ⟨hvalue, hlt⟩

theorem digitValue?_digitChar :
    ∀ value < 16, digitValue? 16 value.digitChar = some value ∧
      digitValue? 16 value.digitChar.toUpper = some value := by
  decide

-- No letter beyond `f` has a value.
theorem digitChar_of_digitValue? :
    ∀ code < 103, ∀ value < 16, digitValue? 16 (.ofNat code) = some value →
      Char.ofNat code = value.digitChar ∨ Char.ofNat code = value.digitChar.toUpper := by
  decide

theorem toNat_lt_of_digitValue? (h : digitValue? base char = some value) : char.toNat < 103 := by
  simp only [digitValue?] at h
  by_contra hge
  rw [if_neg (by omega), if_neg (by omega), if_neg (by omega)] at h
  cases h

theorem isDigit_iff (hbase : base ≤ 16) :
    IsDigit base char value ↔ digitValue? base char = some value := by
  rw [digitValue?_eq_some_iff hbase]
  refine and_congr_right fun hlt => ⟨fun hchar => ?_, fun hvalue => ?_⟩
  · obtain ⟨hlower, hupper⟩ := digitValue?_digitChar value (by omega)
    rcases hchar with rfl | rfl
    · exact hlower
    · exact hupper
  · have h := digitChar_of_digitValue? char.toNat (toNat_lt_of_digitValue? hvalue) value (by omega)
    rw [Char.ofNat_toNat] at h
    exact h hvalue

end Digits

-- The value of digits that are read on from the value of those before them.
def horner (base start : Nat) (values : List Nat) : Nat :=
  values.foldl (fun value digit => value * base + digit) start

theorem horner_zero (base : Nat) (values : List Nat) :
    horner base 0 values = Nat.ofDigits base values.reverse := by
  rw [horner, Nat.ofDigits_eq_foldr, List.foldr_reverse]
  simp only [Nat.cast_id, Nat.add_comm, Nat.mul_comm]

theorem le_horner {base : Nat} (hbase : 0 < base) (start : Nat) (values : List Nat) :
    start ≤ horner base start values := by
  induction values generalizing start with
  | nil => exact Nat.le_refl start
  | cons digit values ih =>
    calc
      start ≤ start * base := Nat.le_mul_of_pos_right start hbase
      _ ≤ start * base + digit := Nat.le_add_right ..
      _ ≤ horner base start (digit :: values) := ih _

-- A sum that has outgrown the range stays out of it, whatever digits follow.
theorem magnitude_eq_ok_iff {base start value : Nat} {digits : List Char} (hbase : 0 < base)
    (hbase' : base ≤ 16) (hstart : start ≤ largestMagnitude) :
    magnitude base start digits = .ok value ↔
      ∃ values, List.Forall₂ (IsDigit base) digits values ∧ value = horner base start values ∧
        value ≤ largestMagnitude := by
  induction digits generalizing start with
  | nil =>
    constructor
    · intro h
      cases h
      exact ⟨[], .nil, rfl, hstart⟩
    · rintro ⟨_, ⟨⟩, rfl, -⟩
      rfl
  | cons char digits ih =>
    simp only [List.forall₂_cons_left_iff, isDigit_iff hbase']
    rw [magnitude]
    cases hdigit : digitValue? base char with
    | none => simp
    | some digit =>
      dsimp only
      by_cases hfits : start * base + digit ≤ largestMagnitude
      · rw [if_pos hfits, ih hfits]
        constructor
        · rintro ⟨values, hvalues, hvalue⟩
          exact ⟨_, ⟨digit, values, rfl, hvalues, rfl⟩, hvalue⟩
        · rintro ⟨_, ⟨_, values, ⟨⟩, hvalues, rfl⟩, hvalue⟩
          exact ⟨values, hvalues, hvalue⟩
      · rw [if_neg hfits]
        constructor
        · intro h
          cases h
        · rintro ⟨_, ⟨_, values, ⟨⟩, -, rfl⟩, rfl, hlargest⟩
          exact absurd ((le_horner hbase _ values).trans hlargest) hfits

theorem Numeral.head {base value : Nat} {digits : List Char} (hbase : base ≤ 16)
    (h : Numeral base digits value) :
    ∃ char rest, digits = char :: rest ∧ digitValue? base char ≠ none := by
  obtain ⟨hne, values, hvalues, -⟩ := h
  cases hvalues with
  | nil => exact absurd rfl hne
  | cons hdigit _ =>
    rw [isDigit_iff hbase] at hdigit
    exact ⟨_, _, rfl, by simp [hdigit]⟩

theorem Numeral.startsWithSign_eq_false {base value : Nat} {digits : List Char}
    (hbase : base ≤ 16) (h : Numeral base digits value) : startsWithSign digits = false := by
  obtain ⟨char, rest, rfl, hchar⟩ := h.head hbase
  have hplus : char ≠ '+' := by
    rintro rfl
    exact hchar rfl
  have hminus : char ≠ '-' := by
    rintro rfl
    exact hchar rfl
  simp [startsWithSign, hplus, hminus]

theorem splitBase_octal {char : Char} {rest : List Char} (hx : char ≠ 'x') (hX : char ≠ 'X') :
    splitBase ('0' :: char :: rest) = (8, char :: rest) := by
  unfold splitBase
  split <;> simp_all

theorem splitBase_decimal {char : Char} {rest : List Char} (hzero : char ≠ '0')
    (hhash : char ≠ '#') : splitBase (char :: rest) = (10, char :: rest) := by
  unfold splitBase
  split <;> simp_all

-- The prefix of a numeral is told from its digits.
theorem unsigned_iff {body : List Char} {value : Nat} :
    Unsigned body value ↔ Numeral (splitBase body).1 (splitBase body).2 value := by
  constructor
  · intro h
    cases h with
    | hexadecimal hmark hdigits =>
      simp only [List.mem_cons, List.not_mem_nil, or_false] at hmark
      rcases hmark with rfl | rfl | rfl <;> exact hdigits
    | octal hdigits =>
      obtain ⟨char, rest, rfl, hchar⟩ := hdigits.head (by decide)
      rwa [splitBase_octal (by rintro rfl; exact hchar rfl) (by rintro rfl; exact hchar rfl)]
    | decimal hzero hdigits =>
      obtain ⟨char, rest, rfl, hchar⟩ := hdigits.head (by decide)
      rcases hzero with hzero | hzero
      · cases hzero
        exact hdigits
      · have hfirst : char ≠ '0' := by simpa using hzero
        rwa [splitBase_decimal hfirst (by rintro rfl; exact hchar rfl)]
  · fun_cases splitBase body with
    | case1 rest => exact @Unsigned.hexadecimal ['0', 'x'] rest _ (by decide)
    | case2 rest => exact @Unsigned.hexadecimal ['0', 'X'] rest _ (by decide)
    | case3 rest => exact @Unsigned.hexadecimal ['#'] rest _ (by decide)
    | case4 char rest => exact .octal
    | case5 _ _ _ _ hlonger =>
      refine .decimal ?_
      rcases body with _ | ⟨char, _ | ⟨second, rest⟩⟩
      · simp
      · by_cases hchar : char = '0' <;> simp [hchar]
      · right
        rintro ⟨⟩
        exact hlonger second rest rfl

theorem Unsigned.startsWithSign_eq_false {body : List Char} {value : Nat}
    (h : Unsigned body value) : startsWithSign body = false := by
  cases h with
  | hexadecimal hmark _ =>
    simp only [List.mem_cons, List.not_mem_nil, or_false] at hmark
    rcases hmark with rfl | rfl | rfl <;> rfl
  | octal _ => rfl
  | decimal _ hdigits => exact hdigits.startsWithSign_eq_false (by decide)

theorem splitSign_unsigned {body : List Char} (h : startsWithSign body = false) :
    splitSign body = (false, body) := by
  unfold splitSign
  split <;> simp_all [startsWithSign]

theorem literal_iff {text : List Char} {value : Int} :
    Literal text value ↔ ∃ magnitude : Nat, Unsigned (splitSign text).2 magnitude ∧
      value = if (splitSign text).1 then -(magnitude : Int) else magnitude := by
  constructor
  · intro h
    cases h with
    | unsigned h =>
      rw [splitSign_unsigned h.startsWithSign_eq_false]
      exact ⟨_, h, rfl⟩
    | plus h => exact ⟨_, h, rfl⟩
    | minus h => exact ⟨_, h, rfl⟩
  · rintro ⟨magnitude, h, rfl⟩
    revert h
    fun_cases splitSign text with
    | case1 rest => exact .minus
    | case2 rest => exact .plus
    | case3 => exact .unsigned

theorem splitBase_bounds (body : List Char) :
    0 < (splitBase body).1 ∧ (splitBase body).1 ≤ 16 := by
  fun_cases splitBase body <;> exact ⟨Nat.succ_pos _, by simp⟩

-- What is read without a check of its range are the numerals up to the largest magnitude.
theorem numeral_iff {base value : Nat} {digits : List Char} (hpos : 0 < base)
    (hbase : base ≤ 16) :
    Numeral base digits value ∧ value ≤ largestMagnitude ↔
      (digits.isEmpty || startsWithSign digits) = false ∧
        magnitude base 0 digits = .ok value := by
  rw [magnitude_eq_ok_iff hpos hbase (Nat.zero_le _)]
  simp only [horner_zero]
  constructor
  · rintro ⟨hnumeral, hsmall⟩
    have hsign := hnumeral.startsWithSign_eq_false hbase
    obtain ⟨hne, values, hvalues, hvalue⟩ := hnumeral
    exact ⟨by simp [hne, hsign], values, hvalues, hvalue, hsmall⟩
  · rintro ⟨hdigits, values, hvalues, hvalue, hsmall⟩
    refine ⟨⟨?_, values, hvalues, hvalue⟩, hsmall⟩
    rintro rfl
    cases hdigits

theorem decode_eq_ok_iff_magnitude {text : String} {value : Int} :
    decode text = .ok value ↔
      let signed := splitSign text.toList
      let based := splitBase signed.2
      (based.2.isEmpty || startsWithSign based.2) = false ∧
        ∃ magnitude : Nat, Integer.magnitude based.1 0 based.2 = .ok magnitude ∧
          value = (if signed.1 then -(magnitude : Int) else magnitude) ∧ inRange value = true := by
  unfold decode
  dsimp only
  generalize splitSign text.toList = signed
  generalize splitBase signed.2 = based
  cases based.2.isEmpty || startsWithSign based.2 with
  | true => simp
  | false =>
    cases Integer.magnitude based.1 0 based.2 with
    | error cause => cases cause <;> simp
    | ok magnitude =>
      simp only [Bool.false_eq_true, if_false, Except.ok.injEq, exists_eq_left', true_and]
      generalize (if signed.1 then -(magnitude : Int) else magnitude) = read
      by_cases hrange : inRange read = true
      · rw [if_pos hrange, Except.ok.injEq]
        constructor
        · rintro rfl
          exact ⟨rfl, hrange⟩
        · exact fun h => h.1.symm
      · rw [if_neg hrange]
        constructor
        · rintro ⟨⟩
        · rintro ⟨rfl, hinside⟩
          exact absurd hinside hrange

-- The magnitude is never too large to be read where the value fits.
theorem decode_eq_ok_iff {text : String} {value : Int} :
    decode text = .ok value ↔ Literal text.toList value ∧ Fits value := by
  obtain ⟨hpos, hbase⟩ := splitBase_bounds (splitSign text.toList).2
  rw [decode_eq_ok_iff_magnitude, literal_iff]
  simp only [unsigned_iff, inRange_iff]
  constructor
  · rintro ⟨hdigits, magnitude, hmagnitude, rfl, hfits⟩
    have hnumeral := (numeral_iff hpos hbase).mpr ⟨hdigits, hmagnitude⟩
    exact ⟨⟨magnitude, hnumeral.1, rfl⟩, hfits⟩
  · rintro ⟨⟨magnitude, hnumeral, rfl⟩, hfits⟩
    have hsmall : magnitude ≤ largestMagnitude := by
      unfold Fits at hfits
      unfold largestMagnitude
      split at hfits <;> omega
    obtain ⟨hdigits, hmagnitude⟩ := (numeral_iff hpos hbase).mp ⟨hnumeral, hsmall⟩
    exact ⟨hdigits, magnitude, hmagnitude, rfl, hfits⟩

theorem Numeral.concat {base value digit : Nat} {digits : List Char} {char : Char}
    (h : Numeral base digits value) (hdigit : IsDigit base char digit) :
    Numeral base (digits ++ [char]) (base * value + digit) := by
  obtain ⟨hne, values, hvalues, rfl⟩ := h
  refine ⟨by simp, values ++ [digit], List.rel_append hvalues (.cons hdigit .nil), ?_⟩
  rw [List.reverse_concat, Nat.ofDigits_cons, Nat.add_comm]

theorem isDigit_digitChar {base value : Nat} (h : value < base) :
    IsDigit base value.digitChar value :=
  ⟨h, .inl rfl⟩

theorem numeral_toDigits (value : Nat) : Numeral 10 (Nat.toDigits 10 value) value := by
  induction value using Nat.strongRecOn with
  | ind value ih =>
    by_cases hsmall : value < 10
    · rw [Nat.toDigits_of_lt_base hsmall]
      exact ⟨by simp, [value], .cons (isDigit_digitChar hsmall) .nil, by simp⟩
    · have h := (ih (value / 10) (by omega)).concat
        (isDigit_digitChar (Nat.mod_lt value (by decide)))
      rwa [Nat.div_add_mod, ← Nat.toDigits_of_base_le (by decide) (by omega)] at h

-- A rendering is zero or begins with a digit above it, so it is never read as octal.
theorem head?_toDigits {value : Nat} (hpos : 0 < value) :
    (Nat.toDigits 10 value).head? ≠ some '0' := by
  induction value using Nat.strongRecOn with
  | ind value ih =>
    by_cases hsmall : value < 10
    · have hdigit : value.digitChar ≠ '0' := by simpa using hpos.ne'
      simpa [Nat.toDigits_of_lt_base hsmall] using hdigit
    · rw [Nat.toDigits_of_base_le (by decide) (by omega), List.head?_append_of_ne_nil]
      · exact ih (value / 10) (by omega) (by omega)
      · exact Nat.toDigits_ne_nil

theorem unsigned_toDigits (value : Nat) : Unsigned (Nat.toDigits 10 value) value := by
  refine .decimal ?_ (numeral_toDigits value)
  cases value with
  | zero => exact .inl rfl
  | succ value => exact .inr (head?_toDigits value.succ_pos)

theorem toList_toString_negSucc (value : Nat) :
    (toString (Int.negSucc value)).toList = '-' :: (toString (value + 1)).toList := by
  change ("-" ++ toString (value + 1)).toList = _
  rw [String.toList_append]
  rfl

theorem literal_toString (value : Int) : Literal (toString value).toList value := by
  have hunsigned (value : Nat) : Unsigned (toString value).toList value := by
    rw [toList_toString]
    exact unsigned_toDigits value
  cases value with
  | ofNat value => exact .unsigned (hunsigned value)
  | negSucc value =>
    rw [toList_toString_negSucc]
    exact .minus (hunsigned (value + 1))

theorem decode_toString {value : Int} (h : Fits value) : decode (toString value) = .ok value :=
  decode_eq_ok_iff.mpr ⟨literal_toString value, h⟩

end QueryTaint.Integer

namespace QueryTaint.CommandLine

open Integer

theorem parseMaxLength_eq_ok_iff {text : String} {value : Nat} :
    parseMaxLength text = .ok value ↔ Literal text.toList value ∧ Fits value ∧ 2 ≤ value := by
  rw [← and_assoc, ← decode_eq_ok_iff, parseMaxLength]
  cases decode text with
  | error cause => simp
  | ok read =>
    by_cases hlong : 2 ≤ read <;> simp [hlong] <;> omega

theorem parseIterations_eq_ok_iff {text : String} {value : Nat} :
    parseIterations text = .ok value ↔ Literal text.toList value ∧ Fits value := by
  rw [← decode_eq_ok_iff, parseIterations]
  cases decode text with
  | error cause => simp
  | ok read =>
    by_cases hpos : 0 ≤ read <;> simp [hpos] <;> omega

-- An argument is read as an integer if it writes one of 64 bits, and then as that integer; what is
-- asked of lengths and of iterations beyond that is a lower bound. What a decimal rendering is read
-- as is the integer that has been rendered.
theorem decode_language :
    (∀ text value, decode text = .ok value ↔ Literal text.toList value ∧ Fits value) ∧
      (∀ text, (∃ cause, decode text = .error cause) ↔
        ¬∃ value, Literal text.toList value ∧ Fits value) ∧
      (∀ value, Fits value → decode (toString value) = .ok value) ∧
      (∀ text value, parseMaxLength text = .ok value ↔
        Literal text.toList value ∧ Fits value ∧ 2 ≤ value) ∧
      ∀ text value, parseIterations text = .ok value ↔ Literal text.toList value ∧ Fits value := by
  refine ⟨fun _ _ => decode_eq_ok_iff, fun text => ?_, fun _ => decode_toString,
    fun _ _ => parseMaxLength_eq_ok_iff, fun _ _ => parseIterations_eq_ok_iff⟩
  simp only [← decode_eq_ok_iff]
  cases decode text <;> simp

-- The least value has no positive counterpart.
theorem decode_language_least :
    Fits (-0x8000000000000000) ∧ decode (toString (-0x8000000000000000 : Int)) =
        .ok (-0x8000000000000000) ∧
      decode "0x8000000000000000" = .error (.outOfRange "0x8000000000000000") :=
  have hfits : Fits (-0x8000000000000000) := ⟨by decide, by decide⟩
  ⟨hfits, decode_language.2.2.1 _ hfits, rfl⟩

end QueryTaint.CommandLine
