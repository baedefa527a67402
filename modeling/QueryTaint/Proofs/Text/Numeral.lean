import QueryTaint.Proofs.Text.Cuts

namespace QueryTaint

theorem toList_toString (number : Nat) : (toString number).toList = Nat.toDigits 10 number := by
  rw [Nat.toString_eq_ofList_toDigits, String.toList_ofList]

theorem isDigit_of_mem_toString {number : Nat} {char : Char}
    (h : char ∈ (toString number).toList) : char.isDigit = true := by
  rw [toList_toString] at h
  exact Nat.isDigit_of_mem_toDigits (by decide) (by decide) h

theorem toList_toString_inj {number other : Nat}
    (h : (toString number).toList = (toString other).toList) : number = other := by
  rw [toList_toString, toList_toString] at h
  calc
    number = Nat.ofDigitChars 10 (Nat.toDigits 10 number) 0 := Nat.ofDigitChars_ten_toDigits.symm
    _ = Nat.ofDigitChars 10 (Nat.toDigits 10 other) 0 := by rw [h]
    _ = other := Nat.ofDigitChars_ten_toDigits

theorem toString_append_inj {number other : Nat} {rest rest' : List Char}
    (hrest : ∀ char ∈ rest.head?, char.isDigit = false)
    (hrest' : ∀ char ∈ rest'.head?, char.isDigit = false)
    (h : (toString number).toList ++ rest = (toString other).toList ++ rest') :
    number = other ∧ rest = rest' := by
  obtain ⟨hnumber, hrest⟩ := append_inj_of_head? (fun _ => isDigit_of_mem_toString)
    (fun _ => isDigit_of_mem_toString) hrest hrest' h
  exact ⟨toList_toString_inj hnumber, hrest⟩

theorem exists_toString_eq_cons (number : Nat) :
    ∃ digit digits, (toString number).toList = digit :: digits ∧ digit.isDigit = true := by
  cases hdigits : (toString number).toList with
  | nil => simp at hdigits
  | cons digit digits =>
      exact ⟨digit, digits, rfl, isDigit_of_mem_toString (hdigits ▸ List.mem_cons_self)⟩

end QueryTaint
