import QueryTaint.Scan

namespace QueryTaint.Scan

@[simp] theorem ok_bind {ε α β : Type} (value : α) (next : α → Except ε β) :
    (.ok value : Except ε α) >>= next = next value := rfl

@[simp] theorem error_bind {ε α β : Type} (error : ε) (next : α → Except ε β) :
    (.error error : Except ε α) >>= next = .error error := rfl

theorem bind_eq_ok_iff {ε α β : Type} {first : Except ε α} {next : α → Except ε β} {result : β} :
    first >>= next = .ok result ↔ ∃ value, first = .ok value ∧ next value = .ok result := by
  cases first <;> simp

namespace State

@[simp] theorem enter_mk (offset : Nat) (before after : Context) (items : List Item) :
    (State.mk offset before items).enter after = ⟨offset + 1, after, items⟩ := rfl

@[simp] theorem close_mk (offset : Nat) (context : Context) (items : List Item) (kind : ItemKind)
    (first last : Nat) :
    (State.mk offset context items).close kind first last =
      ⟨offset, context, ⟨kind, first, last⟩ :: items⟩ := rfl

end State

def run (dialect : Dialect) (state : State) (cells : Text) : Except Rejection State :=
  cells.foldlM (step dialect) state

-- The items, latest first, if the query ends after the cells.
def complete (dialect : Dialect) (state : State) (cells : Text) : Except Rejection (List Item) := do
  let state ← run dialect state cells
  let state ← finish state
  .ok state.items

variable (dialect : Dialect)

@[simp] theorem run_cons (state : State) (cell : Cell) (cells : Text) :
    run dialect state (cell :: cells) = step dialect state cell >>= (run dialect · cells) :=
  List.foldlM_cons

theorem run_append (state : State) (left right : Text) :
    run dialect state (left ++ right) = run dialect state left >>= (run dialect · right) :=
  List.foldlM_append

theorem complete_nil (state : State) :
    complete dialect state [] = finish state >>= fun last => .ok last.items := rfl

theorem complete_append (state : State) (left right : Text) :
    complete dialect state (left ++ right) =
      run dialect state left >>= (complete dialect · right) := by
  unfold complete
  rw [run_append]
  cases run dialect state left <;> rfl

theorem complete_cons (state : State) (cell : Cell) (cells : Text) :
    complete dialect state (cell :: cells) =
      step dialect state cell >>= (complete dialect · cells) := by
  rw [← List.singleton_append, complete_append, run_cons]
  cases step dialect state cell <;> rfl

theorem scan_eq_complete (query : Text) :
    scan dialect query = complete dialect .start query >>= fun items => .ok items.reverse := by
  unfold scan complete run
  cases query.foldlM (step dialect) .start with
  | error rejection => rfl
  | ok state => cases h : finish state <;> simp [h]

theorem check_eq_complete (query : Text) :
    check dialect query = complete dialect .start query >>= fun _ => .ok () := by
  unfold check
  rw [scan_eq_complete]
  cases complete dialect .start query <;> rfl

theorem scan_eq_ok_iff_complete (query : Text) (items : List Item) :
    scan dialect query = .ok items ↔ complete dialect .start query = .ok items.reverse := by
  rw [scan_eq_complete]
  cases complete dialect .start query with
  | error rejection => simp
  | ok result => simp [List.reverse_eq_iff]

theorem check_eq_error_iff (query : Text) (rejection : Rejection) :
    check dialect query = .error rejection ↔
      complete dialect .start query = .error rejection := by
  rw [check_eq_complete]
  cases complete dialect .start query <;> simp

-- Accepting a query is having items for it.
theorem check_eq_ok_iff (query : Text) :
    check dialect query = .ok () ↔ ∃ items, scan dialect query = .ok items := by
  unfold check
  cases scan dialect query <;> simp

-- The query ends in a violation if it goes on with the cells.
def Violates (state : State) (cells : Text) : Prop :=
  ∃ found, complete dialect state cells = .error (.violation found)

theorem violates_of_step {state : State} {cell : Cell} {kind : ViolationKind} {offset : Nat}
    (h : step dialect state cell = violation kind offset) (cells : Text) :
    Violates dialect state (cell :: cells) := by
  refine ⟨⟨kind, offset⟩, ?_⟩
  rw [complete_cons, h]
  rfl

theorem violates_cons {state next : State} {cell : Cell} (h : step dialect state cell = .ok next)
    (cells : Text) : Violates dialect state (cell :: cells) ↔ Violates dialect next cells := by
  unfold Violates
  rw [complete_cons, h, ok_bind]

-- Two neighbours that open a comment if both are clean.
def opensComment (first second : Char) : Bool :=
  first = '-' && second = '-' || first = '/' && (second = '/' || second = '*')

theorem opened?_eq_none_iff (first second : Char) (start : Nat) :
    opened? dialect first second start = none ↔ opensComment first second = false := by
  unfold opened? opensComment
  split
  · rename_i h
    rcases h with ⟨rfl, rfl⟩ | ⟨rfl, rfl⟩ <;> simp
  · rename_i hline
    split
    · rename_i h
      obtain ⟨rfl, rfl⟩ := h
      simp
    · rename_i hblock
      simp only [Bool.or_eq_false_iff, Bool.and_eq_false_iff, decide_eq_false_iff_not, true_iff]
      grind

end QueryTaint.Scan
