import QueryTaint.Value
import QueryTaint.Proofs.Lexis.Number

namespace QueryTaint

namespace Number.Stage

theorem exists_completes_of_append {stage : Stage} {left right : List Char}
    (h : stage.completes (left ++ right) = true) :
    ∃ middle : Stage, middle.completes right = true := by
  induction left generalizing stage with
  | nil => exact ⟨stage, h⟩
  | cons char left ih =>
      obtain ⟨following, -, h⟩ := (completes_cons stage char (left ++ right)).mp h
      exact ih h

theorem next_eq_some_char {stage following : Stage} {char : Char}
    (h : stage.next char = some following) :
    isSign char = true ∨ char.isDigit = true ∨ char = '.' ∨ isExponent char = true := by
  cases stage <;> simp only [next] at h <;> grind

-- A hyphen is read as a sign, and no stage that has just read a sign is the last one.
theorem next_hyphen {stage following : Stage} (h : stage.next '-' = some following) :
    following = sign ∨ following = exponentSign := by
  cases stage <;> simp_all [next, isSign, isExponent]

end Number.Stage

theorem isBoolean_toLower_mem {chars : List Char} (h : isBoolean chars = true) {char : Char}
    (hchar : char ∈ chars) : char.toLower ∈ ['t', 'r', 'u', 'e', 'f', 'a', 'l', 's'] := by
  have hlower : char.toLower ∈ chars.map Char.toLower := List.mem_map_of_mem hchar
  simp only [isBoolean, Bool.or_eq_true, decide_eq_true_eq] at h
  rcases h with h | h <;> rw [h] at hlower <;> simp_all <;> grind

theorem isValue_iff (chars : List Char) :
    isValue chars = true ↔ Number.Stage.start.completes chars = true ∨ isBoolean chars = true := by
  rw [isValue, Bool.or_eq_true, Number.isLiteral_iff_completes]

theorem isValue_mem {chars : List Char} (h : isValue chars = true) {char : Char}
    (hchar : char ∈ chars) : char ≠ '\'' ∧ char ≠ '"' ∧ char ≠ '/' ∧ char ≠ '*' ∧ char ≠ ' ' := by
  rcases (isValue_iff chars).mp h with hnumber | hboolean
  · obtain ⟨left, right, rfl⟩ := List.append_of_mem hchar
    obtain ⟨stage, hstage⟩ := Number.Stage.exists_completes_of_append hnumber
    obtain ⟨following, hnext, -⟩ := (Number.Stage.completes_cons stage char right).mp hstage
    have hkind := Number.Stage.next_eq_some_char hnext
    refine ⟨?_, ?_, ?_, ?_, ?_⟩ <;> rintro rfl <;> revert hkind <;> decide
  · have hletter := isBoolean_toLower_mem hboolean hchar
    refine ⟨?_, ?_, ?_, ?_, ?_⟩ <;> rintro rfl <;> revert hletter <;> decide

theorem isValue_hyphen_ne {left right : List Char} {char : Char}
    (h : isValue (left ++ '-' :: char :: right) = true) : char ≠ '-' := by
  rintro rfl
  rcases (isValue_iff _).mp h with hnumber | hboolean
  · obtain ⟨stage, hstage⟩ := Number.Stage.exists_completes_of_append hnumber
    obtain ⟨first, hfirst, hstage⟩ := (Number.Stage.completes_cons ..).mp hstage
    obtain ⟨second, hsecond, -⟩ := (Number.Stage.completes_cons ..).mp hstage
    rcases Number.Stage.next_hyphen hfirst with rfl | rfl <;>
      simp [Number.Stage.next] at hsecond
  · have hletter := isBoolean_toLower_mem hboolean
      (show '-' ∈ left ++ '-' :: '-' :: right by simp)
    revert hletter
    decide

theorem not_isValue_hyphen_last (left : List Char) : isValue (left ++ ['-']) = false := by
  rw [Bool.eq_false_iff]
  intro h
  rcases (isValue_iff _).mp h with hnumber | hboolean
  · obtain ⟨stage, hstage⟩ := Number.Stage.exists_completes_of_append hnumber
    obtain ⟨first, hfirst, hstage⟩ := (Number.Stage.completes_cons ..).mp hstage
    rcases Number.Stage.next_hyphen hfirst with rfl | rfl <;>
      simp [Number.Stage.completes, Number.Stage.accepts] at hstage
  · have hletter := isBoolean_toLower_mem hboolean (show '-' ∈ left ++ ['-'] by simp)
    revert hletter
    decide

theorem valueFault?_eq_none_iff (separated : Bool) (run : List Char) :
    valueFault? separated run = none ↔ separated = true ∧ isValue run = true := by
  cases separated <;> cases h : isValue run <;> simp [valueFault?, h]

theorem valueFault?_eq_some {separated : Bool} {run : List Char} {kind : ViolationKind}
    (h : valueFault? separated run = some kind) :
    kind = .invalidValue ∨ kind = .unseparatedValue := by
  unfold valueFault? at h
  split at h
  · exact .inr (Option.some.inj h).symm
  · split at h
    · cases h
    · exact .inl (Option.some.inj h).symm

-- The two truth values in small letters.
theorem isBoolean_iff (chars : List Char) :
    isBoolean chars = true ↔ chars.map Char.toLower = ['t', 'r', 'u', 'e'] ∨
      chars.map Char.toLower = ['f', 'a', 'l', 's', 'e'] := by
  simp [isBoolean]

theorem toLower_of_isDigit {char : Char} (h : char.isDigit = true) : char.toLower = char := by
  simp only [Char.isDigit, Bool.and_eq_true, decide_eq_true_eq, ge_iff_le] at h
  unfold Char.toLower
  rw [dif_neg]
  rintro ⟨hlow, _⟩
  have hhigh := h.2
  simp only [ge_iff_le, UInt32.le_iff_toNat_le] at hlow hhigh
  have h9 : '9'.val.toNat = 57 := rfl
  have hA : 'A'.val.toNat = 65 := rfl
  omega

theorem not_isDigit_of_isBoolean {chars : List Char} (h : isBoolean chars = true) {char : Char}
    (hchar : char ∈ chars) : char.isDigit = false := by
  rw [Bool.eq_false_iff]
  intro hdigit
  have hletter := isBoolean_toLower_mem h hchar
  rw [toLower_of_isDigit hdigit] at hletter
  simp only [List.mem_cons, List.not_mem_nil, or_false] at hletter
  rcases hletter with rfl | rfl | rfl | rfl | rfl | rfl | rfl | rfl <;> cases hdigit

theorem not_isLiteral_of_isBoolean {chars : List Char} (h : isBoolean chars = true)
    (more : List Char) : Number.isLiteral (chars ++ more) = false := by
  cases chars with
  | nil => simp [isBoolean] at h
  | cons char rest =>
      rw [Bool.eq_false_iff]
      intro hliteral
      obtain ⟨following, hnext, -⟩ := (Number.Stage.completes_cons ..).mp
        ((Number.isLiteral_iff_completes _).mp hliteral)
      have hdigit := not_isDigit_of_isBoolean h (List.mem_cons_self ..)
      have hmark : Number.isSign char = true ∨ char = '.' := by
        simp only [Number.Stage.next, hdigit] at hnext
        grind
      have hletter := isBoolean_toLower_mem h (List.mem_cons_self ..)
      rw [Number.isSign_iff] at hmark
      rcases hmark with (rfl | rfl) | rfl <;> revert hletter <;> decide

-- A truth value is complete: nothing that begins with one is another value.
theorem not_isValue_boolean_append {chars more : List Char} (h : isBoolean chars = true)
    (hmore : more ≠ []) : isValue (chars ++ more) = false := by
  rw [isValue, not_isLiteral_of_isBoolean h, Bool.false_or, Bool.eq_false_iff]
  intro hboth
  have hlength := List.length_pos_iff.mpr hmore
  rw [isBoolean_iff, List.map_append] at hboth
  rcases (isBoolean_iff _).mp h with h | h <;> rw [h] at hboth
  all_goals
    rcases hboth with hboth | hboth <;> simp_all

-- No proper part of a truth value is a value.
theorem eq_of_isValue_part {chars run : List Char} (h : isBoolean chars = true)
    (hpart : run <:+: chars) (hvalue : isValue run = true) : run = chars := by
  rw [isValue, Bool.or_eq_true] at hvalue
  rcases hvalue with hliteral | hboolean
  · obtain ⟨char, hchar, hdigit⟩ := ((Number.isLiteral_iff run).mp hliteral).exists_digit
    rw [not_isDigit_of_isBoolean h (hpart.subset hchar)] at hdigit
    cases hdigit
  · have hlower := hpart.map Char.toLower
    have hlength : run.length = chars.length := by
      have hle := hpart.length_le
      rcases (isBoolean_iff _).mp h with h | h <;>
        rcases (isBoolean_iff _).mp hboolean with hrun | hrun
      all_goals
        have hchars := congrArg List.length h
        have hrunLength := congrArg List.length hrun
        simp only [List.length_map, List.length_cons, List.length_nil] at hchars hrunLength
      · omega
      · omega
      · rw [h, hrun] at hlower
        have hmem := hlower.subset (show 't' ∈ ['t', 'r', 'u', 'e'] by decide)
        exact absurd hmem (by decide)
      · omega
    exact hpart.eq_of_length hlength

end QueryTaint
