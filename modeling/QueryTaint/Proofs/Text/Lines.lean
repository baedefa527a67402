import QueryTaint.Proofs.Text.Numeral
import Mathlib.Data.List.Induction

namespace QueryTaint

def OneLine (text : String) : Prop := '\n' ∉ text.toList

theorem OneLine.append {text other : String} (htext : OneLine text) (hother : OneLine other) :
    OneLine (text ++ other) := by
  unfold OneLine at *
  simp [htext, hother]

theorem oneLine_toString (number : Nat) : OneLine (toString number) := by
  intro hmem
  cases isDigit_of_mem_toString hmem

-- Lines at the end of a text, each behind a line feed.
def closing (lines : List (List Char)) : List Char := lines.flatMap ('\n' :: ·)

theorem closing_concat (lines : List (List Char)) (line : List Char) :
    closing (lines ++ [line]) = closing lines ++ '\n' :: line := by
  simp [closing]

-- The same lines, each before a line feed.
theorem cons_flatMap_append (lines : List (List Char)) :
    '\n' :: lines.flatMap (· ++ ['\n']) = closing lines ++ ['\n'] := by
  induction lines with
  | nil => rfl
  | cons line lines ih => simpa [closing] using ih

-- The last line of a text is known.
theorem append_line_inj {front front' line line' : List Char} (hline : '\n' ∉ line)
    (hline' : '\n' ∉ line') (h : front ++ '\n' :: line = front' ++ '\n' :: line') :
    front = front' ∧ line = line' := by
  have hplain {line : List Char} (hline : '\n' ∉ line) : ∀ char ∈ line, (char != '\n') = true := by
    intro char hchar
    rw [bne_iff_ne]
    rintro rfl
    exact hline hchar
  rw [List.append_cons, List.append_cons front'] at h
  obtain ⟨hfront, hrest⟩ := append_inj_of_getLast? (p := (· != '\n')) (hplain hline)
    (hplain hline') (by simp) (by simp) h
  exact ⟨List.append_cancel_right hfront, hrest⟩

-- Read from the end on, the lines are the same until one of the texts has no more of them.
theorem suffix_or_suffix_of_closing {front front' : List Char} {lines lines' : List (List Char)}
    (hlines : ∀ line ∈ lines, '\n' ∉ line) (hlines' : ∀ line ∈ lines', '\n' ∉ line)
    (h : front ++ closing lines = front' ++ closing lines') :
    lines <:+ lines' ∨ lines' <:+ lines := by
  induction lines using List.reverseRecOn generalizing lines' with
  | nil => exact .inl (List.nil_suffix)
  | append_singleton lines line ih =>
      rcases List.eq_nil_or_concat lines' with rfl | ⟨others, other, rfl⟩
      · exact .inr (List.nil_suffix)
      · rw [List.concat_eq_append] at h hlines' ⊢
        rw [closing_concat, closing_concat, ← List.append_assoc, ← List.append_assoc] at h
        obtain ⟨hrest, rfl⟩ := append_line_inj (hlines line (by simp)) (hlines' other (by simp)) h
        have hsuffix := ih (fun line hline => hlines line (by simp [hline]))
          (fun line hline => hlines' line (by simp [hline])) hrest
        simpa only [List.suffix_append_self_iff] using hsuffix

end QueryTaint
