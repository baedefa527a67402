import QueryTaint.Proofs.Scan.Lookahead

namespace QueryTaint.Scan

-- The clean cells of the text open nothing.
def Plain : Text → Prop
  | [] => True
  | cell :: rest =>
    (cell.tainted = false → cell.char ≠ '\'' ∧ cell.char ≠ '"' ∧
      ∀ next ∈ rest.head?, opensComment cell.char next.char = false) ∧ Plain rest

-- The characters of a value, or of the end of one, open nothing whatever their bits are.
theorem plain_of_isValue (left : List Char) {text rest : Text}
    (hvalue : isValue (left ++ text.chars) = true) (hrest : Plain rest) : Plain (text ++ rest) := by
  induction text generalizing left with
  | nil => exact hrest
  | cons cell text ih =>
      have hmem : cell.char ∈ left ++ Text.chars (cell :: text) := by simp [Text.chars]
      obtain ⟨hquote, hmark, hslash, -, -⟩ := isValue_mem hvalue hmem
      have hmore : isValue (left ++ [cell.char] ++ Text.chars text) = true := by
        rw [List.append_assoc]
        exact hvalue
      refine ⟨fun _ => ⟨hquote, hmark, ?_⟩, ih _ hmore⟩
      intro next hnext
      by_cases hhyphen : cell.char = '-'
      · cases text with
        | nil =>
            rw [Text.chars, List.map_singleton, hhyphen, not_isValue_hyphen_last] at hvalue
            cases hvalue
        | cons other text =>
            obtain rfl : other = next := Option.some.inj hnext
            have hother : isValue (left ++ '-' :: other.char :: Text.chars text) = true := by
              rw [← hhyphen]
              exact hvalue
            simp [opensComment, hslash, isValue_hyphen_ne hother]
      · simp [opensComment, hslash, hhyphen]

theorem Plain.concat {text : Text} (h : Plain text) {cell : Cell} (hquote : cell.char ≠ '\'')
    (hmark : cell.char ≠ '"')
    (hlast : ∀ last ∈ text.getLast?, opensComment last.char cell.char = false) :
    Plain (text ++ [cell]) := by
  induction text with
  | nil => exact ⟨fun _ => ⟨hquote, hmark, by simp⟩, trivial⟩
  | cons first text ih =>
      obtain ⟨hfirst, hrest⟩ := h
      refine ⟨fun hclean => ?_, ih hrest fun last hmem => hlast last ?_⟩
      · obtain ⟨hfirstQuote, hfirstMark, hopens⟩ := hfirst hclean
        refine ⟨hfirstQuote, hfirstMark, ?_⟩
        cases text with
        | nil =>
            intro next hnext
            obtain rfl : cell = next := Option.some.inj hnext
            exact hlast first rfl
        | cons second text => exact hopens
      · simp [List.getLast?_cons, Option.mem_def.mp hmem]

-- Whether a plain text is at its end when `rest` follows: no run goes on, and no comment opens.
def Ended (text rest : Text) : Prop :=
  ∀ last ∈ text.getLast?, ∀ next ∈ rest.head?,
    if last.tainted then next.tainted = false else opensComment last.char next.char = false

-- The tainted runs of a text as items.
def values (offset : Nat) (text : Text) : List Item :=
  (text.taintedRunsFrom offset).map (Item.mk .value)

theorem Plain.append_right (left : Text) {right : Text} (h : Plain (left ++ right)) :
    Plain right := by
  induction left with
  | nil => exact h
  | cons cell left ih => exact ih h.2

theorem Ended.append_right (left : Text) {right rest : Text} (h : Ended (left ++ right) rest) :
    Ended right rest := by
  intro last hlast
  exact h last (by simp [List.getLast?_append, Option.mem_def.mp hlast])

theorem separates_tainted {cell : Cell} (htainted : cell.tainted = true) :
    separates (some cell) = false := by
  simp [separates, Cell.isBoundary, htainted]

theorem separates_after_run (left : Text) {run : Text} (hne : run ≠ [])
    (hrun : ∀ cell ∈ run, cell.tainted = true) : separates (left ++ run).getLast? = false := by
  rw [List.getLast?_append, List.getLast?_eq_some_getLast hne]
  exact separates_tainted (hrun _ (List.getLast_mem hne))

theorem clean_of_separates {before : Option Cell} (h : separates before = true) :
    ∀ cell ∈ before, cell.tainted = false := by
  intro cell hcell
  rw [Option.mem_def.mp hcell] at h
  cases htainted : cell.tainted with
  | false => rfl
  | true => simp [separates_tainted htainted] at h

theorem last_cons (before : Option Cell) (cell : Cell) (text : Text) :
    (cell :: text).getLast?.or before = text.getLast?.or (some cell) := by
  cases h : text.getLast? <;> simp [List.getLast?_cons, h]

-- After a tainted run nothing is separated, whichever of its cells is looked at.
theorem separates_last_run (before : Option Cell) {cell : Cell} {more rest : Text}
    (hrun : ∀ other ∈ cell :: more, other.tainted = true) :
    separates ((cell :: more ++ rest).getLast?.or before) =
      separates (rest.getLast?.or (some cell)) := by
  rw [List.getLast?_append]
  cases rest.getLast? with
  | some last => rfl
  | none =>
      rw [List.getLast?_eq_some_getLast (List.cons_ne_nil cell more)]
      simp only [Option.none_or, Option.some_or]
      rw [separates_tainted (hrun _ (List.getLast_mem _)), separates_tainted (hrun cell (by simp))]

variable (dialect : Dialect)

theorem complete_plainText (before : Option Cell) (offset : Nat) (items : List Item)
    (text rest : Text) (hplain : Plain text) (hended : Ended text rest) :
    complete dialect ⟨offset, .code (separates before), items⟩ (text ++ rest) =
      ((text.checkRunsAfter before offset).mapError .violation >>= fun _ =>
        complete dialect
          ⟨offset + text.length, .code (separates (text.getLast?.or before)),
            (values offset text).reverse ++ items⟩ rest) := by
  induction text using Text.runInduction generalizing before offset items with
  | nil =>
      rw [Text.checkRunsAfter]
      rfl
  | clean cell text hcell ih =>
      obtain ⟨hquote, hmark, hopens⟩ := hplain.1 hcell
      have hnext : ∀ next ∈ (text ++ rest).head?, opensComment cell.char next.char = false := by
        cases text with
        | nil => simpa [Ended, hcell] using hended
        | cons other text => exact hopens
      have ih := ih (some cell) (offset + 1) items hplain.2 (Ended.append_right [cell] hended)
      rw [List.cons_append, complete_plain dialect _ _ _ _ _ hcell hquote hmark hnext,
        Text.checkRunsAfter_clean before offset text hcell, last_cons]
      simp only [values, Text.taintedRunsFrom_clean offset text hcell, List.length_cons,
        Nat.add_comm text.length, ← Nat.add_assoc]
      exact ih
  | run cell more tail hrun htail ih =>
      have hcell := hrun cell (List.mem_cons_self ..)
      have hhead : ∀ next ∈ (tail ++ rest).head?, next.tainted = false := by
        cases tail with
        | nil =>
            intro next hnext
            have hlast := hended _ (List.getLast?_eq_some_getLast (by simp)) next hnext
            simpa [hrun _ (List.getLast_mem (List.cons_ne_nil cell more))] using hlast
        | cons other tail => exact htail
      have ih := ih (some cell) (offset + (more.length + 1))
        (⟨.value, offset, offset + (more.length + 1)⟩ :: items)
        (Plain.append_right (cell :: more) hplain) (Ended.append_right (cell :: more) hended)
      rw [Text.checkRunsAfter_run before offset cell hrun htail,
        separates_last_run before hrun, List.append_assoc,
        complete_taintedRun dialect _ _ _ _ _ _ hrun hhead]
      cases valueFault? (separates before) (Text.chars (cell :: more)) with
      | some kind => rfl
      | none =>
          dsimp only
          rw [separates_tainted hcell] at ih
          have hruns := Text.taintedRunsFrom_run offset (List.cons_ne_nil cell more) hrun htail
          rw [ih]
          simp only [values, hruns, List.length_append, List.length_cons, List.map_cons,
            List.reverse_cons, List.append_assoc, List.singleton_append, Nat.add_assoc]

end QueryTaint.Scan
