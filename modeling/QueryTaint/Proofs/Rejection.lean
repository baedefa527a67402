import QueryTaint.Rejection
import QueryTaint.Proofs.Text.Lines

namespace QueryTaint

section Violation

-- What is told of a violation before its place.
def ViolationKind.lead : ViolationKind → String
  | invalidValue | unseparatedValue => "Tainted value at "
  | commentDelimiter => "Tainted comment delimiter at "
  | mixedQuoteEscape => "Escaped quote at "
  | closingQuote => "Tainted closing quote at "
  | nullByte => "Tainted null byte in string literal at "
  | identifier => "Tainted character in quoted identifier at "
  | lineTerminator => "Tainted line comment terminator at "
  | nesting => "Tainted block comment nesting change at "

-- What is told of a violation behind its place.
def ViolationKind.trail : ViolationKind → String
  | invalidValue => " is neither a numeric nor a boolean literal"
  | unseparatedValue => " is not separated from the preceding token"
  | mixedQuoteEscape => " has mixed taint"
  | commentDelimiter | closingQuote | nullByte | identifier | lineTerminator | nesting => ""

theorem Violation.message_eq (violation : Violation) :
    violation.message =
      violation.kind.lead ++ toString violation.offset ++ violation.kind.trail := by
  obtain ⟨kind, offset⟩ := violation
  cases kind <;> simp [message, ViolationKind.lead, ViolationKind.trail]

theorem ViolationKind.eq_of_lead_of_trail {kind other : ViolationKind}
    (hlead : kind.lead = other.lead) (htrail : kind.trail = other.trail) : kind = other := by
  have hfound (kind : ViolationKind) :
      all.find? (fun other => other.lead = kind.lead ∧ other.trail = kind.trail) = some kind := by
    cases kind <;> rfl
  have h := hfound kind
  rw [hlead, htrail, hfound other] at h
  exact (Option.some.inj h).symm

theorem ViolationKind.isDigit_of_mem_lead {kind : ViolationKind} {char : Char}
    (h : char ∈ kind.lead.toList) : char.isDigit = false := by
  have hlead : kind.lead.toList.all (fun char => !char.isDigit) = true := by
    cases kind <;> simp [lead]
  simpa using List.all_eq_true.mp hlead char h

theorem ViolationKind.isDigit_of_head?_trail {kind : ViolationKind} {char : Char}
    (h : char ∈ kind.trail.toList.head?) : char.isDigit = false := by
  have htrail : kind.trail.toList.head?.all (fun char => !char.isDigit) = true := by
    cases kind <;> simp [trail]
  rw [Option.mem_def.mp h] at htrail
  simpa using htrail

-- The place is the only number in the text.
theorem Violation.message_inj {violation other : Violation}
    (h : violation.message = other.message) : violation = other := by
  have hlists := congrArg String.toList h
  rw [message_eq, message_eq] at hlists
  simp only [String.toList_append, List.append_assoc] at hlists
  have hnumeral (violation : Violation) : ∀ char ∈
      ((toString violation.offset).toList ++ violation.kind.trail.toList).head?,
      (!char.isDigit) = false := by
    intro char hchar
    obtain ⟨digit, digits, hdigits, hdigit⟩ := exists_toString_eq_cons violation.offset
    rw [hdigits] at hchar
    obtain rfl := Option.some.inj hchar
    simp [hdigit]
  obtain ⟨hlead, hrest⟩ := append_inj_of_head? (p := fun char => !char.isDigit)
    (fun char hchar => by simp [ViolationKind.isDigit_of_mem_lead hchar])
    (fun char hchar => by simp [ViolationKind.isDigit_of_mem_lead hchar]) (hnumeral violation)
    (hnumeral other) hlists
  obtain ⟨hoffset, htrail⟩ := toString_append_inj
    (fun _ => ViolationKind.isDigit_of_head?_trail)
    (fun _ => ViolationKind.isDigit_of_head?_trail) hrest
  have hkind := ViolationKind.eq_of_lead_of_trail (String.toList_inj.mp hlead)
    (String.toList_inj.mp htrail)
  cases violation
  cases other
  exact (mk.injEq ..).mpr ⟨hkind, hoffset⟩

theorem Violation.oneLine_message (violation : Violation) : OneLine violation.message := by
  rw [message_eq]
  refine (OneLine.append ?_ (oneLine_toString _)).append ?_
  · cases violation.kind <;> simp [OneLine, ViolationKind.lead]
  · cases violation.kind <;> simp [OneLine, ViolationKind.trail]

end Violation

section Malformed

theorem toList_message_malformed (construct : String) (offset : Nat) :
    (Rejection.malformed construct offset).message.toList =
      "Malformed query: unterminated ".toList ++ construct.toList ++ " starting at ".toList ++
        (toString offset).toList := by
  change ("Malformed query: unterminated " ++ construct ++ " starting at " ++
    toString offset).toList = _
  simp only [String.toList_append]

-- The place is the number at the end.
theorem malformed_message_inj {construct other : String} {offset place : Nat}
    (h : (Rejection.malformed construct offset).message =
      (Rejection.malformed other place).message) : construct = other ∧ offset = place := by
  have hlists := congrArg String.toList h
  rw [toList_message_malformed, toList_message_malformed] at hlists
  have hblank (before : List Char) :
      ∀ char ∈ (before ++ " starting at ".toList).getLast?, char.isDigit = false := by
    intro char hchar
    rw [List.getLast?_append] at hchar
    cases hchar
    rfl
  obtain ⟨hfront, hoffset⟩ := append_inj_of_getLast? (fun _ => isDigit_of_mem_toString)
    (fun _ => isDigit_of_mem_toString) (hblank _) (hblank _) hlists
  have hconstruct := List.append_cancel_left (List.append_cancel_right hfront)
  exact ⟨String.toList_inj.mp hconstruct, toList_toString_inj hoffset⟩

end Malformed

end QueryTaint
