import QueryTaint.Lexis.Nesting

namespace QueryTaint.Nesting

theorem eq_slash_of_isClosed {nesting : Nesting} {cell : Cell} (hlevel : nesting.level ≠ 0)
    (hclosed : (nesting.next cell).isClosed = true) (hclean : nesting.taintedChange cell = false) :
    cell = ⟨'/', false⟩ := by
  obtain ⟨char, tainted⟩ := cell
  simp only [next, isClosed, taintedChange, touched, change] at *
  grind

-- The half that has been read, if there is one, is the last cell.
def Remembers (nesting : Nesting) (last : Cell) : Prop :=
  nesting.half = .none ∨ nesting.half = .of last.char ∧ nesting.lastTainted = last.tainted

theorem remembers_next (nesting : Nesting) (cell : Cell) : (nesting.next cell).Remembers cell := by
  unfold next Remembers
  split
  · exact .inr ⟨rfl, rfl⟩
  · exact .inl rfl
  · exact .inl rfl

theorem nested_next (nesting : Nesting) (cell : Cell) :
    (nesting.next cell).nested = nesting.nested := by
  unfold next
  split <;> rfl

theorem lastTainted_next (nesting : Nesting) (cell : Cell) :
    (nesting.next cell).lastTainted = cell.tainted := by
  unfold next
  split <;> rfl

end QueryTaint.Nesting
