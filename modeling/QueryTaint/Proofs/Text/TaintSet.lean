import QueryTaint.Text.Taint
import QueryTaint.Proofs.Text.Lines

namespace QueryTaint.Text

-- The positions with the brace behind the last one.
def positionList (indices : List Nat) : List Char :=
  [',', ' '].intercalate (indices.map fun index => (toString index).toList) ++ ['\x7d']

-- What comes behind a position if these are the other ones.
def positionsAfter : List Nat → List Char
  | [] => ['\x7d']
  | next :: indices => ',' :: ' ' :: ((toString next).toList ++ positionsAfter indices)

theorem toList_taintSet (text : Text) :
    text.taintSet.toList = '\x7b' :: positionList text.taintedIndices := by
  simp [taintSet, positionList, String.toList_intercalate, Function.comp_def]

theorem positionList_nil : positionList [] = ['\x7d'] := rfl

theorem positionList_cons (index : Nat) (indices : List Nat) :
    positionList (index :: indices) = (toString index).toList ++ positionsAfter indices := by
  induction indices generalizing index with
  | nil => simp [positionList, positionsAfter]
  | cons next indices ih =>
      rw [positionsAfter, ← ih next]
      simp [positionList, List.intercalate_cons_cons]

theorem isDigit_of_head?_positionsAfter {indices : List Nat} {char : Char}
    (h : char ∈ (positionsAfter indices).head?) : char.isDigit = false := by
  cases indices <;> cases h <;> rfl

-- Digits end where other positions or the brace begin.
theorem append_positionsAfter_inj {index other : Nat} {indices others : List Nat}
    (h : (toString index).toList ++ positionsAfter indices =
      (toString other).toList ++ positionsAfter others) :
    index = other ∧ positionsAfter indices = positionsAfter others :=
  toString_append_inj (fun _ => isDigit_of_head?_positionsAfter)
    (fun _ => isDigit_of_head?_positionsAfter) h

theorem positionsAfter_inj {indices others : List Nat}
    (h : positionsAfter indices = positionsAfter others) : indices = others := by
  induction indices generalizing others with
  | nil =>
      cases others with
      | nil => rfl
      | cons other others => cases h
  | cons index indices ih =>
      cases others with
      | nil => cases h
      | cons other others =>
          obtain ⟨rfl, hafter⟩ :=
            append_positionsAfter_inj (List.cons.inj (List.cons.inj h).2).2
          rw [ih hafter]

theorem positionList_cons_ne_nil (index : Nat) (indices : List Nat) :
    positionList (index :: indices) ≠ positionList [] := by
  obtain ⟨digit, digits, hnumeral, hdigit⟩ := exists_toString_eq_cons index
  rw [positionList_cons, positionList_nil, hnumeral]
  intro h
  obtain rfl : digit = '\x7d' := (List.cons.inj h).1
  cases hdigit

theorem positionList_inj {indices others : List Nat}
    (h : positionList indices = positionList others) : indices = others := by
  cases indices with
  | nil =>
      cases others with
      | nil => rfl
      | cons other others => exact absurd h.symm (positionList_cons_ne_nil other others)
  | cons index indices =>
      cases others with
      | nil => exact absurd h (positionList_cons_ne_nil index indices)
      | cons other others =>
          rw [positionList_cons, positionList_cons] at h
          obtain ⟨rfl, hafter⟩ := append_positionsAfter_inj h
          rw [positionsAfter_inj hafter]

theorem lineFeed_notMem_positionsAfter (indices : List Nat) : '\n' ∉ positionsAfter indices := by
  induction indices with
  | nil => simp [positionsAfter]
  | cons index indices ih =>
      rw [positionsAfter]
      simp only [List.mem_cons, List.mem_append, not_or]
      exact ⟨by decide, by decide, oneLine_toString index, ih⟩

theorem oneLine_taintSet (text : Text) : OneLine text.taintSet := by
  rw [OneLine, toList_taintSet]
  cases text.taintedIndices with
  | nil => simp [positionList_nil]
  | cons index indices =>
      rw [positionList_cons]
      simp only [List.mem_cons, List.mem_append, not_or]
      exact ⟨by decide, oneLine_toString index, lineFeed_notMem_positionsAfter indices⟩

theorem le_of_mem_taintedIndicesFrom {offset index : Nat} {text : Text}
    (h : index ∈ text.taintedIndicesFrom offset) : offset ≤ index := by
  induction text generalizing offset with
  | nil => cases h
  | cons cell text ih =>
      unfold taintedIndicesFrom at h
      split at h
      · rcases List.mem_cons.mp h with rfl | h
        · exact Nat.le_refl _
        · exact Nat.le_of_succ_le (ih h)
      · exact Nat.le_of_succ_le (ih h)

-- Whether the first cell is tainted can be seen from the tainted positions.
theorem taintedIndicesFrom_cons_inj {offset : Nat} {cell other : Cell} {text others : Text}
    (h : taintedIndicesFrom offset (cell :: text) = taintedIndicesFrom offset (other :: others)) :
    cell.tainted = other.tainted ∧
      text.taintedIndicesFrom (offset + 1) = others.taintedIndicesFrom (offset + 1) := by
  have hlater (text : Text) : offset ∉ text.taintedIndicesFrom (offset + 1) := fun hmem =>
    absurd (le_of_mem_taintedIndicesFrom hmem) (Nat.not_succ_le_self offset)
  unfold taintedIndicesFrom at h
  cases hcell : cell.tainted <;> cases hother : other.tainted <;>
    simp only [hcell, hother, if_true, Bool.false_eq_true, if_false] at h
  · exact ⟨rfl, h⟩
  · exact absurd (h ▸ List.mem_cons_self) (hlater text)
  · exact absurd (h ▸ List.mem_cons_self) (hlater others)
  · exact ⟨rfl, (List.cons.inj h).2⟩

theorem eq_of_taintedIndicesFrom {offset : Nat} {left right : Text}
    (hchars : left.chars = right.chars)
    (hindices : left.taintedIndicesFrom offset = right.taintedIndicesFrom offset) :
    left = right := by
  induction left generalizing offset right with
  | nil =>
      cases right with
      | nil => rfl
      | cons cell right => cases hchars
  | cons cell left ih =>
      cases right with
      | nil => cases hchars
      | cons other right =>
          obtain ⟨hchar, hchars⟩ := List.cons.inj hchars
          obtain ⟨htainted, hindices⟩ := taintedIndicesFrom_cons_inj hindices
          have hcell : cell = other := by
            cases cell
            cases other
            exact (Cell.mk.injEq ..).mpr ⟨hchar, htainted⟩
          rw [hcell, ih hchars hindices]

theorem eq_of_taintSet {left right : Text} (hstring : left.string = right.string)
    (hset : left.taintSet = right.taintSet) : left = right := by
  have hlists := congrArg String.toList hset
  rw [toList_taintSet, toList_taintSet] at hlists
  have hchars := congrArg String.toList hstring
  simp only [string, String.toList_ofList] at hchars
  exact eq_of_taintedIndicesFrom hchars (positionList_inj (List.cons.inj hlists).2)

end QueryTaint.Text
