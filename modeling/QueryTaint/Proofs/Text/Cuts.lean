namespace QueryTaint

variable {α : Type} {p : α → Bool} {front front' rest rest' : List α}

theorem takeWhile_append_of_head? (hfront : ∀ a ∈ front, p a = true)
    (hrest : ∀ a ∈ rest.head?, p a = false) : (front ++ rest).takeWhile p = front := by
  rw [List.takeWhile_append_of_pos hfront]
  cases rest with
  | nil => simp
  | cons a rest => simp [hrest a rfl]

theorem exists_first_cut (p : α → Bool) (list : List α) :
    ∃ front rest, list = front ++ rest ∧ (∀ a ∈ front, p a = true) ∧
      ∀ a ∈ rest.head?, p a = false := by
  refine ⟨list.takeWhile p, list.dropWhile p, List.takeWhile_append_dropWhile.symm, ?_, ?_⟩
  · intro a ha
    exact List.all_eq_true.mp (List.all_takeWhile ..) a ha
  · intro a ha
    have hnot := List.head?_dropWhile_not p list
    rw [Option.mem_def.mp ha] at hnot
    simpa using hnot

theorem append_inj_of_head? (hfront : ∀ a ∈ front, p a = true)
    (hfront' : ∀ a ∈ front', p a = true) (hrest : ∀ a ∈ rest.head?, p a = false)
    (hrest' : ∀ a ∈ rest'.head?, p a = false) (h : front ++ rest = front' ++ rest') :
    front = front' ∧ rest = rest' := by
  have htake := congrArg (List.takeWhile p) h
  rw [takeWhile_append_of_head? hfront hrest, takeWhile_append_of_head? hfront' hrest'] at htake
  subst htake
  exact ⟨rfl, List.append_cancel_left h⟩

theorem append_inj_of_getLast? (hrest : ∀ a ∈ rest, p a = true)
    (hrest' : ∀ a ∈ rest', p a = true) (hfront : ∀ a ∈ front.getLast?, p a = false)
    (hfront' : ∀ a ∈ front'.getLast?, p a = false) (h : front ++ rest = front' ++ rest') :
    front = front' ∧ rest = rest' := by
  have hreverse := congrArg List.reverse h
  rw [List.reverse_append, List.reverse_append] at hreverse
  obtain ⟨hback, hahead⟩ := append_inj_of_head? (p := p) (by simpa using hrest)
    (by simpa using hrest') (by simpa using hfront) (by simpa using hfront') hreverse
  exact ⟨List.reverse_inj.mp hahead, List.reverse_inj.mp hback⟩

end QueryTaint
