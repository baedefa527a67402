import Mathlib.Order.Bounds.Basic
import QueryTaint.Proofs.Lexis.Number

namespace QueryTaint.Number

namespace Stage

-- How many characters, at least one, can be read from this stage on to complete a literal.
def fronts (stage : Stage) (chars : List Char) : Set Nat :=
  {length | ∃ front, front <+: chars ∧ front ≠ [] ∧ stage.completes front = true ∧
    front.length = length}

variable {stage following : Stage} {char : Char} {rest : List Char}

theorem fronts_nil (stage : Stage) : stage.fronts [] = ∅ := by
  refine Set.eq_empty_of_forall_notMem ?_
  rintro length ⟨front, hfront, hne, -⟩
  exact hne (List.prefix_nil.mp hfront)

theorem exists_next_of_mem_fronts {length : Nat} (h : length ∈ stage.fronts (char :: rest)) :
    ∃ following, stage.next char = some following := by
  obtain ⟨front, hfront, hne, hcompletes, -⟩ := h
  obtain ⟨first, front, rfl⟩ := List.exists_cons_of_ne_nil hne
  obtain ⟨rfl, -⟩ := List.cons_prefix_cons.mp hfront
  obtain ⟨following, hnext, -⟩ := (completes_cons ..).mp hcompletes
  exact ⟨following, hnext⟩

-- Either the literal is complete after the first character, or it goes on with what can be read
-- from the next stage on.
theorem mem_fronts_cons (hnext : stage.next char = some following) (length : Nat) :
    length ∈ stage.fronts (char :: rest) ↔
      length = 1 ∧ following.accepts = true ∨
        ∃ more ∈ following.fronts rest, length = more + 1 := by
  have hcompletes : ∀ front, stage.completes (char :: front) = following.completes front := by
    intro front
    simp only [completes, hnext]
  constructor
  · rintro ⟨front, hfront, hne, hfull, rfl⟩
    obtain ⟨first, front, rfl⟩ := List.exists_cons_of_ne_nil hne
    obtain ⟨rfl, htail⟩ := List.cons_prefix_cons.mp hfront
    rw [hcompletes] at hfull
    cases front with
    | nil => exact .inl ⟨rfl, hfull⟩
    | cons second front => exact .inr ⟨_, ⟨_, htail, by simp, hfull, rfl⟩, rfl⟩
  · rintro (⟨rfl, haccepts⟩ | ⟨_, ⟨front, hfront, -, hfull, rfl⟩, rfl⟩)
    · exact ⟨[char], List.cons_prefix_cons.mpr ⟨rfl, List.nil_prefix⟩, by simp,
        (hcompletes []).trans haccepts, rfl⟩
    · exact ⟨char :: front, List.cons_prefix_cons.mpr ⟨rfl, hfront⟩, by simp,
        (hcompletes front).trans hfull, rfl⟩

theorem isGreatest_fronts_further (hnext : stage.next char = some following) {more : Nat}
    (h : IsGreatest (following.fronts rest) more) :
    IsGreatest (stage.fronts (char :: rest)) (more + 1) := by
  refine ⟨(mem_fronts_cons hnext _).mpr (.inr ⟨more, h.1, rfl⟩), fun length hlength => ?_⟩
  rcases (mem_fronts_cons hnext length).mp hlength with ⟨rfl, -⟩ | ⟨other, hother, rfl⟩
  · exact Nat.le_add_left 1 more
  · exact Nat.add_le_add_right (h.2 hother) 1

-- Where reading on completes nothing, what has been read so far still counts.
theorem mem_fronts_last (hnext : stage.next char = some following)
    (hempty : following.fronts rest = ∅) (length : Nat) :
    length ∈ stage.fronts (char :: rest) ↔ length = 1 ∧ following.accepts = true := by
  simp [mem_fronts_cons hnext, hempty]

theorem longest_fronts (stage : Stage) (chars : List Char) :
    (∀ count, stage.longest chars = some count → IsGreatest (stage.fronts chars) count) ∧
      (stage.longest chars = none → stage.fronts chars = ∅) := by
  induction chars generalizing stage with
  | nil => exact ⟨by simp [longest], fun _ => fronts_nil stage⟩
  | cons char rest ih =>
      simp only [longest]
      cases hnext : stage.next char with
      | none =>
          refine ⟨by simp, fun _ => Set.eq_empty_of_forall_notMem fun length hlength => ?_⟩
          obtain ⟨following, hfollowing⟩ := exists_next_of_mem_fronts hlength
          simp [hnext] at hfollowing
      | some following =>
          obtain ⟨hsome, hnone⟩ := ih following
          dsimp only
          cases hrest : following.longest rest with
          | some more =>
              refine ⟨?_, by simp⟩
              rintro _ ⟨⟩
              exact isGreatest_fronts_further hnext (hsome more hrest)
          | none =>
              have hmem := mem_fronts_last hnext (hnone hrest)
              dsimp only
              split
              · rename_i haccepts
                refine ⟨?_, by simp⟩
                rintro _ ⟨⟩
                exact ⟨(hmem 1).mpr ⟨rfl, haccepts⟩,
                  fun length hlength => Nat.le_of_eq ((hmem length).mp hlength).1⟩
              · rename_i hrejects
                refine ⟨by simp, fun _ => Set.eq_empty_of_forall_notMem fun length hlength => ?_⟩
                exact hrejects ((hmem length).mp hlength).2

end Stage

-- A literal has a character, so nothing is lost where the reader wants one.
theorem fronts_start (chars : List Char) :
    Stage.start.fronts chars =
      {length | ∃ front, front <+: chars ∧ Literal front ∧ front.length = length} := by
  have hliteral : ∀ front, front ≠ [] ∧ Stage.start.completes front = true ↔ Literal front := by
    intro front
    rw [Stage.completes_iff_form, Stage.Form, and_iff_right_iff_imp]
    rintro hliteral rfl
    obtain ⟨char, hchar, -⟩ := hliteral.exists_digit
    cases hchar
  ext length
  simp only [Stage.fronts, Set.mem_ofPred_eq, ← and_assoc, ← hliteral]

-- The reader finds the longest literal that the text begins with, and none only if there is none;
-- the whole text is a literal for it exactly if the grammar generates it.
theorem longest_literal (chars : List Char) :
    (∀ count, longest? chars = some count ↔
      IsGreatest {length | ∃ front, front <+: chars ∧ Literal front ∧ front.length = length}
        count) ∧
      (longest? chars = none ↔ ∀ front, front <+: chars → ¬Literal front) ∧
      (isLiteral chars = true ↔ Literal chars) := by
  obtain ⟨hsome, hnone⟩ := Stage.longest_fronts .start chars
  rw [fronts_start] at hsome hnone
  refine ⟨fun count => ⟨hsome count, fun hgreatest => ?_⟩, ⟨?_, fun hfree => ?_⟩,
    isLiteral_iff chars⟩
  · cases hfound : longest? chars with
    | none => simpa [hnone hfound] using hgreatest.1
    | some other => rw [(hsome other hfound).unique hgreatest]
  · intro hfound front hfront hliteral
    have hmem : front.length ∈ (∅ : Set Nat) := hnone hfound ▸ ⟨front, hfront, hliteral, rfl⟩
    exact hmem
  · cases hfound : longest? chars with
    | none => rfl
    | some count =>
        obtain ⟨front, hfront, hliteral, -⟩ := (hsome count hfound).1
        exact absurd hliteral (hfree front hfront)

-- Half an exponent stands behind the literal.
example : longest? ['1', '2', '.', '5', 'e', '+', 'x'] = some 4 := by decide

end QueryTaint.Number
