import QueryTaint.Proofs.Text.Runs

namespace QueryTaint.Text

theorem length_of_taintedAt {text : Text} {index : Nat} (h : text.taintedAt index = true) :
    index < text.length := by
  unfold taintedAt at h
  cases hcell : text[index]? with
  | none =>
      rw [hcell] at h
      cases h
  | some cell => exact (List.getElem?_eq_some_iff.mp hcell).1

-- A position in a text, its end included, cuts it in two.
theorem exists_cut {text : Text} {offset : Nat} (h : offset ≤ text.length) :
    ∃ left right, text = left ++ right ∧ left.length = offset := by
  refine ⟨text.take offset, text.drop offset, (List.take_append_drop offset text).symm, ?_⟩
  rw [List.length_take]
  omega

theorem before?_append (left right : Text) :
    (left ++ right).before? left.length = left.getLast? := by
  rcases List.eq_nil_or_concat left with rfl | ⟨front, last, rfl⟩
  · rfl
  · simp [before?]

theorem taintedAt_append (left : Text) (cell : Cell) (right : Text) :
    (left ++ cell :: right).taintedAt left.length = cell.tainted := by
  simp [taintedAt]

theorem taintedAt_append_left {left : Text} (right : Text) {index : Nat} (h : index < left.length) :
    (left ++ right).taintedAt index = left.taintedAt index := by
  rw [taintedAt, taintedAt, List.getElem?_append_left h]

theorem taintedAt_append_right (left right : Text) (index : Nat) :
    (left ++ right).taintedAt (left.length + index) = right.taintedAt index := by
  rw [taintedAt, taintedAt, List.getElem?_append_right (Nat.le_add_right ..),
    Nat.add_sub_cancel_left]

theorem taintedAt_length_append {left right : Text}
    (h : ∀ next ∈ right.head?, next.tainted = false) :
    (left ++ right).taintedAt left.length = false := by
  cases right with
  | nil => simp [taintedAt]
  | cons next right => rw [taintedAt_append, h next rfl]

theorem getElem?_append (left : Text) (cell : Cell) (right : Text) :
    (left ++ cell :: right)[left.length]? = some cell := by
  simp

theorem getElem?_succ_append (left : Text) (cell : Cell) (right : Text) :
    (left ++ cell :: right)[left.length + 1]? = right.head? := by
  rw [List.getElem?_append_right (Nat.le_add_right ..), Nat.add_sub_cancel_left,
    List.getElem?_cons_succ, List.head?_eq_getElem?]

theorem runEnd_append (left : Text) {run rest : Text} (hrun : ∀ cell ∈ run, cell.tainted = true)
    (hrest : ∀ next ∈ rest.head?, next.tainted = false) :
    (left ++ (run ++ rest)).runEnd left.length = left.length + run.length := by
  rw [runEnd, List.drop_left, takeWhile_run hrun hrest]

theorem slice_append (left middle right : Text) :
    (left ++ (middle ++ right)).slice left.length (left.length + middle.length) = .ok middle := by
  have hstop : left.length + middle.length ≤ (left ++ (middle ++ right)).length := by
    simp only [List.length_append]
    omega
  unfold slice
  rw [if_pos ⟨Nat.le_add_right .., hstop⟩, ← List.append_assoc, ← List.length_append,
    List.take_left, List.drop_left]

theorem checkRuns_append (left right : Text) :
    (left ++ right).checkRuns left.length = right.checkRunsAfter left.getLast? left.length := by
  rw [checkRuns, before?_append, List.drop_left]

end QueryTaint.Text
