import Mathlib.Data.List.Induction
import QueryTaint.Proofs.Lexis.Nesting

namespace QueryTaint

-- A pair of neighbours that changes the level: where its second half stands, what it does, and
-- whether one of the halves is tainted.
structure Delimiter where
  last : Nat
  change : LevelChange
  tainted : Bool

-- The delimiters of a body that stands at `offset`. What has been found is passed over as a whole.
def delimiters (nested : Bool) (offset : Nat) : Text → List Delimiter
  | first :: second :: rest =>
    if first.char = '*' ∧ second.char = '/' then
      ⟨offset + 1, .closed, first.tainted || second.tainted⟩ :: delimiters nested (offset + 2) rest
    else if nested = true ∧ first.char = '/' ∧ second.char = '*' then
      ⟨offset + 1, .opened, first.tainted || second.tainted⟩ :: delimiters nested (offset + 2) rest
    else delimiters nested (offset + 1) (second :: rest)
  | _ => []

-- One for the opener before the body, and one more or less for each delimiter.
def balance (nested : Bool) (body : Text) : Int :=
  1 + (delimiters nested 0 body).countP (·.change = .opened) -
    (delimiters nested 0 body).countP (·.change = .closed)

namespace Nesting

def after (nesting : Nesting) (body : Text) : Nesting := body.foldl next nesting

-- The comment is not closed before the body ends.
def OpenUntil (nesting : Nesting) (body : Text) : Prop :=
  ∀ front, front <+: body → front ≠ body → (nesting.after front).isClosed = false

-- The last character of the body closes the comment.
def ClosesAt (nesting : Nesting) (body : Text) : Prop :=
  nesting.OpenUntil body ∧ (nesting.after body).isClosed = true

structure Step where
  change : LevelChange
  taintedChange : Bool
  level : Nat

-- What can be seen of the nesting while it reads the body.
def steps (nesting : Nesting) : Text → List Step
  | [] => []
  | cell :: rest =>
    ⟨nesting.change cell.char, nesting.taintedChange cell, (nesting.next cell).level⟩ ::
      (nesting.next cell).steps rest

-- The steps that change the level, written down as delimiters.
def changes (nesting : Nesting) (offset : Nat) : Text → List Delimiter
  | [] => []
  | cell :: rest =>
    if nesting.change cell.char = .none then (nesting.next cell).changes (offset + 1) rest
    else
      ⟨offset, nesting.change cell.char, nesting.touched cell⟩ ::
        (nesting.next cell).changes (offset + 1) rest

variable {nesting : Nesting} {cell : Cell}

theorem change_idle (h : nesting.half = .none) (char : Char) : nesting.change char = .none := by
  simp [change, h]

-- A remembered half is completed by the character that makes a pair with it.
theorem change_half {last : Char} (h : nesting.half = .of last) (char : Char) :
    nesting.change char =
      if last = '*' ∧ char = '/' then .closed
      else if nesting.nested = true ∧ last = '/' ∧ char = '*' then .opened
      else .none := by
  unfold change
  rw [h]
  by_cases hstar : last = '*'
  · simp [Half.of, hstar]
  · by_cases hslash : last = '/' <;> simp [Half.of, hstar, hslash]

theorem half_next_of_idle (h : nesting.change cell.char = .none) :
    (nesting.next cell).half = .of cell.char := by
  simp only [next, h]

theorem half_next_of_change (h : nesting.change cell.char ≠ .none) :
    (nesting.next cell).half = .none := by
  unfold next
  split
  · exact absurd ‹_› h
  · rfl
  · rfl

-- The induction is on what is still to be read. Either no half is remembered, as behind a
-- delimiter, or the one that the last character is, and then the matcher still stands before it.
theorem changes_eq_delimiters (nested : Bool) (body : Text) (offset : Nat) :
    (∀ nesting : Nesting, nesting.nested = nested → nesting.half = .none →
      nesting.changes offset body = delimiters nested offset body) ∧
    (∀ (nesting : Nesting) (last : Cell), nesting.nested = nested → nesting.half = .of last.char →
      nesting.lastTainted = last.tainted →
        nesting.changes (offset + 1) body = delimiters nested offset (last :: body)) := by
  induction body generalizing offset with
  | nil => exact ⟨fun _ _ _ => rfl, fun _ _ _ _ _ => rfl⟩
  | cons cell body ih =>
      constructor
      · intro nesting hnested hhalf
        have hidle := change_idle hhalf cell.char
        rw [changes, if_pos hidle]
        exact (ih offset).2 _ cell (by rw [nested_next, hnested]) (half_next_of_idle hidle)
          (lastTainted_next ..)
      · intro nesting last hnested hhalf htainted
        have hchange := change_half hhalf cell.char
        have hafter := hnested ▸ nested_next nesting cell
        -- Behind a delimiter both start anew.
        have hfound : ∀ change, change ≠ .none → nesting.change cell.char = change →
            nesting.changes (offset + 1) (cell :: body) =
              ⟨offset + 1, change, last.tainted || cell.tainted⟩ ::
                delimiters nested (offset + 2) body := by
          rintro _ hne rfl
          rw [changes, if_neg hne, touched, htainted, Bool.or_comm,
            (ih (offset + 2)).1 _ hafter (half_next_of_change hne)]
        rw [delimiters, ← hnested]
        split_ifs at hchange ⊢ with hclose hopen
        · rw [hnested]
          exact hfound _ (by decide) hchange
        · rw [hnested]
          exact hfound _ (by decide) hchange
        · rw [changes, if_pos hchange, hnested]
          exact (ih (offset + 1)).2 _ cell hafter (half_next_of_idle hchange) (lastTainted_next ..)

theorem le_last_of_mem_changes {nesting : Nesting} {offset : Nat} {body : Text}
    {found : Delimiter} (h : found ∈ nesting.changes offset body) : offset ≤ found.last := by
  induction body generalizing nesting offset with
  | nil => cases h
  | cons cell body ih =>
      unfold changes at h
      split at h
      · exact Nat.le_of_succ_le (ih h)
      · rcases List.mem_cons.mp h with rfl | h
        · exact Nat.le_refl offset
        · exact Nat.le_of_succ_le (ih h)

-- What is written down at a place is what the step does there.
theorem mem_changes_iff (nesting : Nesting) (offset : Nat) (front : Text) (cell : Cell)
    (back : Text) (change : LevelChange) (tainted : Bool) :
    ⟨offset + front.length, change, tainted⟩ ∈ nesting.changes offset (front ++ cell :: back) ↔
      change ≠ .none ∧ (nesting.after front).change cell.char = change ∧
        (nesting.after front).touched cell = tainted := by
  induction front generalizing nesting offset with
  | nil =>
      have hlater : ⟨offset, change, tainted⟩ ∉ (nesting.next cell).changes (offset + 1) back :=
        fun h => absurd (le_last_of_mem_changes h) (Nat.not_succ_le_self offset)
      simp only [List.length_nil, Nat.add_zero, List.nil_append, changes]
      split
      · rename_i hidle
        refine ⟨fun h => absurd h hlater, ?_⟩
        rintro ⟨hne, hchange, -⟩
        exact absurd (hchange.symm.trans hidle) hne
      · rename_i hchange
        constructor
        · intro h
          rcases List.mem_cons.mp h with h | h
          · cases h
            exact ⟨hchange, rfl, rfl⟩
          · exact absurd h hlater
        · rintro ⟨-, rfl, rfl⟩
          exact List.mem_cons_self ..
  | cons first front ih =>
      have hplace : offset + (first :: front).length = offset + 1 + front.length := by
        rw [List.length_cons, Nat.add_right_comm, Nat.add_assoc]
      rw [hplace, List.cons_append, changes]
      split
      · exact ih (nesting.next first) (offset + 1)
      · refine Iff.trans ?_ (ih (nesting.next first) (offset + 1))
        rw [List.mem_cons, or_iff_right]
        intro h
        injection h
        omega

theorem openUntil_nil (nesting : Nesting) : nesting.OpenUntil [] :=
  fun _ hfront hne => absurd (List.prefix_nil.mp hfront) hne

theorem openUntil_cons (nesting : Nesting) (cell : Cell) (rest : Text) :
    nesting.OpenUntil (cell :: rest) ↔
      nesting.isClosed = false ∧ (nesting.next cell).OpenUntil rest := by
  constructor
  · intro h
    refine ⟨h [] List.nil_prefix (by simp), fun front hfront hne => ?_⟩
    exact h (cell :: front) (List.cons_prefix_cons.mpr ⟨rfl, hfront⟩) (by simpa using hne)
  · rintro ⟨hopen, hrest⟩ front hfront hne
    cases front with
    | nil => exact hopen
    | cons first front =>
        obtain ⟨rfl, htail⟩ := List.cons_prefix_cons.mp hfront
        exact hrest front htail fun heq => hne (by rw [heq])

theorem OpenUntil.front {nesting : Nesting} {front body : Text} (h : nesting.OpenUntil body)
    (hfront : front <+: body) : nesting.OpenUntil front := by
  intro shorter hshorter hne
  refine h shorter (hshorter.trans hfront) ?_
  rintro rfl
  exact hne (hshorter.eq_of_length_le hfront.length_le)

-- As long as a level is open, closing one takes it away.
theorem level_after (nesting : Nesting) (offset : Nat) {body : Text}
    (h : nesting.OpenUntil body) :
    ((nesting.after body).level : Int) =
      nesting.level + (nesting.changes offset body).countP (·.change = .opened) -
        (nesting.changes offset body).countP (·.change = .closed) := by
  induction body generalizing nesting offset with
  | nil => simp [after, changes]
  | cons cell body ih =>
      obtain ⟨hopen, hrest⟩ := (openUntil_cons ..).mp h
      have hlevel : nesting.level ≠ 0 := by simpa [isClosed] using hopen
      have ih := ih (nesting.next cell) (offset + 1) hrest
      change (((nesting.next cell).after body).level : Int) = _
      rw [ih]
      cases hchange : nesting.change cell.char with
      | none => simp [changes, hchange, next]
      | opened =>
          simp [changes, hchange, next]
          omega
      | closed =>
          simp [changes, hchange, next]
          omega

theorem level_opened {nested : Bool} {body : Text} (h : (opened nested).OpenUntil body) :
    (((opened nested).after body).level : Int) = balance nested body := by
  rw [level_after _ 0 h, (changes_eq_delimiters nested body 0).1 _ rfl rfl]
  rfl

theorem OpenUntil.concat {nesting : Nesting} {body : Text} (h : nesting.OpenUntil body)
    (hopen : (nesting.after body).isClosed = false) (cell : Cell) :
    nesting.OpenUntil (body ++ [cell]) := by
  intro front hfront hne
  rcases List.prefix_concat_iff.mp hfront with heq | hfront
  · exact absurd heq hne
  · by_cases heq : front = body
    · rw [heq]
      exact hopen
    · exact h front hfront heq

theorem isClosed_iff {nested : Bool} {body : Text} (h : (opened nested).OpenUntil body) :
    ((opened nested).after body).isClosed = true ↔ balance nested body = 0 := by
  rw [← level_opened h, isClosed, decide_eq_true_eq]
  omega

-- Once more from left to right: where the balance has not been zero, the level is the balance.
theorem openUntil_of_balance {nested : Bool} {body : Text}
    (h : ∀ front, front <+: body → front ≠ body → balance nested front ≠ 0) :
    (opened nested).OpenUntil body := by
  induction body using List.reverseRecOn with
  | nil => exact openUntil_nil _
  | append_singleton body cell ih =>
      have hbody : body <+: body ++ [cell] := List.prefix_append ..
      have huntil := ih fun front hfront hne => by
        refine h front (hfront.trans hbody) ?_
        rintro rfl
        exact hne (hfront.eq_of_length_le hbody.length_le)
      refine huntil.concat ?_ cell
      rw [← Bool.not_eq_true, isClosed_iff huntil]
      exact h body hbody (by simp)

theorem balance_pos {nested : Bool} {front body : Text} (h : (opened nested).OpenUntil body)
    (hfront : front <+: body) (hne : front ≠ body) : 0 < balance nested front := by
  have hopen := h front hfront hne
  rw [← level_opened (h.front hfront)]
  simp only [isClosed, decide_eq_false_iff_not] at hopen
  omega

theorem closesAt_iff (nested : Bool) (body : Text) :
    (opened nested).ClosesAt body ↔ balance nested body = 0 ∧
      ∀ front, front <+: body → front ≠ body → balance nested front ≠ 0 := by
  constructor
  · rintro ⟨huntil, hclosed⟩
    exact ⟨(isClosed_iff huntil).mp hclosed,
      fun front hfront hne => Int.ne_of_gt (balance_pos huntil hfront hne)⟩
  · rintro ⟨hzero, hnonzero⟩
    have huntil := openUntil_of_balance hnonzero
    exact ⟨huntil, (isClosed_iff huntil).mpr hzero⟩

-- The two dialects differ only in what a star does behind a slash.
theorem steps_dialects (level : Nat) (half : Half) (lastTainted : Bool) {body : Text}
    (hhead : half = .slash → ∀ next ∈ body.head?, next.char ≠ '*')
    (hbody : ¬['/', '*'] <:+: body.chars) :
    steps ⟨true, level, half, lastTainted⟩ body = steps ⟨false, level, half, lastTainted⟩ body := by
  induction body generalizing level half lastTainted with
  | nil => rfl
  | cons cell body ih =>
      have hchange : change ⟨true, level, half, lastTainted⟩ cell.char =
          change ⟨false, level, half, lastTainted⟩ cell.char := by
        have hstar := fun hslash => hhead hslash cell rfl
        simp only [change]
        grind
      have hnext : ∃ level' half', (half' = .none ∨ half' = .of cell.char) ∧
          next ⟨true, level, half, lastTainted⟩ cell = ⟨true, level', half', cell.tainted⟩ ∧
          next ⟨false, level, half, lastTainted⟩ cell = ⟨false, level', half', cell.tainted⟩ := by
        simp only [next, hchange]
        split
        · exact ⟨level, _, .inr rfl, rfl, rfl⟩
        · exact ⟨level + 1, _, .inl rfl, rfl, rfl⟩
        · exact ⟨level - 1, _, .inl rfl, rfl, rfl⟩
      obtain ⟨level', half', hhalf, hnested, hflat⟩ := hnext
      have hrest : ¬['/', '*'] <:+: Text.chars body := fun h =>
        hbody (h.trans (List.suffix_cons ..).isInfix)
      have hnone : half' = .slash → ∀ next ∈ body.head?, next.char ≠ '*' := by
        rintro rfl next hhead hstar
        obtain ⟨more, rfl⟩ := List.head?_eq_some_iff.mp hhead
        have hslash : cell.char = '/' := by
          have hof : Half.slash = .of cell.char := hhalf.resolve_left (by decide)
          unfold Half.of at hof
          grind
        exact hbody (by simp [Text.chars, hslash, hstar, List.infix_cons_iff])
      simp only [steps, taintedChange, touched, hchange, hnested, hflat]
      rw [ih level' half' cell.tainted hnone hrest]

-- What closes the levels that are open.
def closers (level : Nat) : Text :=
  Text.uniform false (List.replicate level [' ', '*', '/']).flatten

theorem closers_succ (level : Nat) :
    closers (level + 1) = ⟨' ', false⟩ :: ⟨'*', false⟩ :: ⟨'/', false⟩ :: closers level := by
  simp [closers, Text.uniform, List.replicate_succ]

theorem next_space (nested : Bool) (level : Nat) (half : Half) (lastTainted : Bool) :
    next ⟨nested, level, half, lastTainted⟩ ⟨' ', false⟩ = ⟨nested, level, .none, false⟩ := by
  simp [next, change, Half.of]

theorem next_star (nested : Bool) (level : Nat) (lastTainted : Bool) :
    next ⟨nested, level, .none, lastTainted⟩ ⟨'*', false⟩ = ⟨nested, level, .star, false⟩ := by
  simp [next, change, Half.of]

theorem next_slash (nested : Bool) (level : Nat) (lastTainted : Bool) :
    next ⟨nested, level + 1, .star, lastTainted⟩ ⟨'/', false⟩ = ⟨nested, level, .none, false⟩ := by
  simp [next, change]

-- The space keeps what stands before it from being half of the delimiter.
theorem closesAt_closers (nested : Bool) (level : Nat) (half : Half) (lastTainted : Bool) :
    ClosesAt ⟨nested, level, half, lastTainted⟩ (closers level) ∧
      ∀ step ∈ steps ⟨nested, level, half, lastTainted⟩ (closers level),
        step.taintedChange = false := by
  induction level generalizing half lastTainted with
  | zero =>
      have hnil : closers 0 = [] := rfl
      rw [hnil]
      exact ⟨⟨openUntil_nil _, rfl⟩, by simp [steps]⟩
  | succ level ih =>
      obtain ⟨⟨huntil, hclosed⟩, hclean⟩ := ih .none false
      rw [closers_succ]
      refine ⟨⟨?_, ?_⟩, ?_⟩
      · simp only [openUntil_cons, next_space, next_star, next_slash]
        exact ⟨rfl, rfl, rfl, huntil⟩
      · simpa only [after, List.foldl_cons, next_space, next_star, next_slash] using hclosed
      · simp only [steps, List.forall_mem_cons, next_space, next_star, next_slash]
        refine ⟨?_, ?_, ?_, hclean⟩ <;> simp [taintedChange, touched, change]

theorem mem_delimiters_iff (nested : Bool) (front : Text) (cell : Cell) (back : Text)
    (change : LevelChange) (tainted : Bool) :
    ⟨front.length, change, tainted⟩ ∈ delimiters nested 0 (front ++ cell :: back) ↔
      change ≠ .none ∧ ((opened nested).after front).change cell.char = change ∧
        ((opened nested).after front).touched cell = tainted := by
  rw [← (changes_eq_delimiters nested _ 0).1 (opened nested) rfl rfl, ← mem_changes_iff _ 0,
    Nat.zero_add]

theorem change_iff_delimiter (nested : Bool) (front : Text) (cell : Cell) (back : Text)
    {change : LevelChange} (hne : change ≠ .none) :
    ((opened nested).after front).change cell.char = change ↔
      ∃ found ∈ delimiters nested 0 (front ++ cell :: back),
        found.last = front.length ∧ found.change = change := by
  constructor
  · intro hchange
    exact ⟨⟨front.length, change, _⟩, (mem_delimiters_iff ..).mpr ⟨hne, hchange, rfl⟩, rfl, rfl⟩
  · rintro ⟨⟨_, _, tainted⟩, hfound, rfl, rfl⟩
    exact ((mem_delimiters_iff ..).mp hfound).2.1

theorem taintedChange_iff_delimiter (nested : Bool) (front : Text) (cell : Cell) (back : Text) :
    ((opened nested).after front).taintedChange cell = true ↔
      ∃ found ∈ delimiters nested 0 (front ++ cell :: back),
        found.last = front.length ∧ found.tainted = true := by
  rw [taintedChange, Bool.and_eq_true, decide_eq_true_eq]
  constructor
  · rintro ⟨hne, htouched⟩
    exact ⟨⟨front.length, _, true⟩, (mem_delimiters_iff ..).mpr ⟨hne, rfl, htouched⟩, rfl, rfl⟩
  · rintro ⟨⟨_, change, _⟩, hfound, rfl, rfl⟩
    obtain ⟨hne, rfl, htouched⟩ := (mem_delimiters_iff ..).mp hfound
    exact ⟨hne, htouched⟩

-- The nesting follows the delimiters of the body: it changes on their second halves, as a tainted
-- change where they are tainted, its level is the balance, and it closes where that is first zero.
-- So the dialects do not differ where nothing opens, and the closers of what is open close it with
-- their last character and no tainted one.
theorem nesting_delimits (nested : Bool) (body : Text) :
    let start := opened nested
    let closing := closers (start.after body).level
    (∀ front cell back, body = front ++ cell :: back →
      (∀ change, change ≠ .none →
        ((start.after front).change cell.char = change ↔
          ∃ found ∈ delimiters nested 0 body,
            found.last = front.length ∧ found.change = change)) ∧
      ((start.after front).taintedChange cell = true ↔
        ∃ found ∈ delimiters nested 0 body,
          found.last = front.length ∧ found.tainted = true)) ∧
    (start.OpenUntil body → ((start.after body).level : Int) = balance nested body ∧
      ∀ front, front <+: body → front ≠ body → 0 < balance nested front) ∧
    (start.ClosesAt body ↔ balance nested body = 0 ∧
      ∀ front, front <+: body → front ≠ body → balance nested front ≠ 0) ∧
    (¬['/', '*'] <:+: body.chars → steps (opened true) body = steps (opened false) body) ∧
    (start.after body).ClosesAt closing ∧
    ∀ step ∈ (start.after body).steps closing, step.taintedChange = false := by
  intro start closing
  refine ⟨?_, ?_, closesAt_iff nested body, ?_, closesAt_closers ..⟩
  · rintro front cell back rfl
    exact ⟨fun change => change_iff_delimiter nested front cell back,
      taintedChange_iff_delimiter nested front cell back⟩
  · intro huntil
    exact ⟨level_opened huntil, fun front => balance_pos huntil⟩
  · exact steps_dialects 1 .none false nofun

-- The tainted star belongs to the opener before it, so the slash behind it closes nothing. Behind
-- two stars, where no opener is, it closes the comment in either dialect.
theorem nesting_delimits_overlap :
    let start := opened true
    let front : Text := [⟨'/', false⟩]
    let back : Text := .uniform false ['/', '*', '/']
    let body : Text := front ++ ⟨'*', true⟩ :: back
    let plain : Text := .uniform false ['*', '*', '/']
    (start.after front).change '*' = .opened ∧
      (start.after front).taintedChange ⟨'*', true⟩ = true ∧
      start.OpenUntil body ∧ (start.after body).level = 3 ∧ balance true body = 3 ∧
      ¬['/', '*'] <:+: plain.chars ∧ steps (opened true) plain = steps (opened false) plain := by
  intro start front back body plain
  obtain ⟨hsteps, hlevel, -⟩ := nesting_delimits true body
  obtain ⟨hchange, htainted⟩ := hsteps front ⟨'*', true⟩ back rfl
  have huntil : start.OpenUntil body := by
    simp only [body, front, back, Text.uniform, List.map_cons, List.map_nil, List.cons_append,
      List.nil_append, openUntil_cons]
    exact ⟨rfl, rfl, rfl, rfl, rfl, openUntil_nil _⟩
  have hbalance : balance true body = 3 := by decide
  have hlast : ((start.after body).level : Int) = 3 := (hlevel huntil).1.trans hbalance
  have hplain : ¬['/', '*'] <:+: plain.chars := by decide
  obtain ⟨-, -, -, hdialects, -⟩ := nesting_delimits true plain
  refine ⟨(hchange .opened (by decide)).mpr ?_, htainted.mpr ?_, huntil, Int.ofNat.inj hlast,
    hbalance, hplain, hdialects hplain⟩
  · exact ⟨⟨1, .opened, true⟩, by simp [delimiters, body, front], rfl, rfl⟩
  · exact ⟨⟨1, .opened, true⟩, by simp [delimiters, body, front], rfl, rfl⟩

end Nesting

end QueryTaint
