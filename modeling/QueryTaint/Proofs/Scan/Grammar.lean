import QueryTaint.Proofs.Scan.Lookahead

namespace QueryTaint

namespace Grammar

-- The inside of a string literal. A quote is doubled, and both halves have the same bit.
inductive LiteralBody : Text → Prop where
  | nil : LiteralBody []
  | char (cell : Cell) (rest : Text) :
    cell.char ≠ '\'' → ¬(cell.char = '\x00' ∧ cell.tainted = true) → LiteralBody rest →
      LiteralBody (cell :: rest)
  | pair (tainted : Bool) (rest : Text) :
    LiteralBody rest → LiteralBody (⟨'\'', tainted⟩ :: ⟨'\'', tainted⟩ :: rest)

inductive IdentifierBody : Text → Prop where
  | nil : IdentifierBody []
  | char (char : Char) (rest : Text) :
    char ≠ '"' → IdentifierBody rest → IdentifierBody (⟨char, false⟩ :: rest)
  | pair (rest : Text) :
    IdentifierBody rest → IdentifierBody (⟨'"', false⟩ :: ⟨'"', false⟩ :: rest)

-- Two neighbours in a block comment that change its level.
def delimits (nested : Bool) (first second : Char) : Bool :=
  first = '*' && second = '/' || nested && first = '/' && second = '*'

-- The inside of a block comment, from a place where it is at some level to the first one where
-- nothing of it is open. Delimiters are clean, and a character that begins one does not stand
-- alone.
inductive BlockBody (nested : Bool) : Nat → Text → Prop where
  | done : BlockBody nested 0 []
  | close (level : Nat) (rest : Text) :
    BlockBody nested level rest →
      BlockBody nested (level + 1) (⟨'*', false⟩ :: ⟨'/', false⟩ :: rest)
  | deepen (level : Nat) (rest : Text) :
    nested = true → BlockBody nested (level + 2) rest →
      BlockBody nested (level + 1) (⟨'/', false⟩ :: ⟨'*', false⟩ :: rest)
  | char (level : Nat) (cell : Cell) (rest : Text) :
    (∀ next ∈ rest.head?, delimits nested cell.char next.char = false) →
      BlockBody nested (level + 1) rest → BlockBody nested (level + 1) (cell :: rest)

-- A comment ends in the second half of its last delimiter.
theorem BlockBody.getLast? {nested : Bool} {level : Nat} {body : Text}
    (h : BlockBody nested level body) (hlevel : level ≠ 0) :
    List.getLast? body = some ⟨'/', false⟩ := by
  induction h with
  | done => exact absurd rfl hlevel
  | close level rest hrest ih =>
      by_cases hzero : level = 0
      · subst hzero
        cases hrest
        rfl
      · simp [List.getLast?_cons, ih hzero]
  | deepen level rest _ _ ih => simp [List.getLast?_cons, ih (by omega)]
  | char level cell rest _ _ ih => simp [List.getLast?_cons, ih (by omega)]

-- The pieces of a query, each between the cell before it and the rest of the query after it.
inductive Piece (dialect : Dialect) (before : Option Cell) :
    Text → Text → Option ItemKind → Prop where
  | plain (char : Char) (rest : Text) :
    char ≠ '\'' → char ≠ '"' →
      (∀ next ∈ rest.head?, Scan.opensComment char next.char = false) →
        Piece dialect before [⟨char, false⟩] rest none
  | value (run rest : Text) :
    run ≠ [] → (∀ cell ∈ run, cell.tainted = true) → (∀ next ∈ rest.head?, next.tainted = false) →
      separates before = true → Number.Literal run.chars ∨ isBoolean run.chars = true →
        Piece dialect before run rest (some .value)
  | stringLiteral (body rest : Text) :
    LiteralBody body → (∀ next ∈ rest.head?, next.char ≠ '\'') →
      Piece dialect before (⟨'\'', false⟩ :: (body ++ [⟨'\'', false⟩])) rest (some .stringLiteral)
  | quotedIdentifier (body rest : Text) :
    IdentifierBody body → (∀ next ∈ rest.head?, next.char ≠ '"') →
      Piece dialect before (⟨'"', false⟩ :: (body ++ [⟨'"', false⟩])) rest (some .quotedIdentifier)
  | lineComment (mark ending : Char) (body rest : Text) :
    mark = '-' ∨ mark = '/' → (∀ cell ∈ body, cell.char ≠ '\r' ∧ cell.char ≠ '\n') →
      ending = '\r' ∨ ending = '\n' →
        Piece dialect before (⟨mark, false⟩ :: ⟨mark, false⟩ :: (body ++ [⟨ending, false⟩])) rest
          (some .lineComment)
  | lastLine (mark : Char) (body : Text) :
    mark = '-' ∨ mark = '/' → (∀ cell ∈ body, cell.char ≠ '\r' ∧ cell.char ≠ '\n') →
      Piece dialect before (⟨mark, false⟩ :: ⟨mark, false⟩ :: body) [] (some .lineComment)
  | blockComment (body rest : Text) :
    BlockBody dialect.nestedComments 1 body →
      Piece dialect before (⟨'/', false⟩ :: ⟨'*', false⟩ :: body) rest (some .blockComment)

-- The item that a piece is, if it is one.
def itemOf (kind : Option ItemKind) (offset : Nat) (piece : Text) : List Item :=
  kind.toList.map fun kind => ⟨kind, offset, offset + piece.length⟩

-- A text that stands at `offset` and after the cell `before`, cut into pieces.
inductive Cut (dialect : Dialect) : Option Cell → Nat → Text → List Item → Prop where
  | nil (before : Option Cell) (offset : Nat) : Cut dialect before offset [] []
  | cons (before : Option Cell) (offset : Nat) (piece rest : Text) (kind : Option ItemKind)
    (items : List Item) :
    Piece dialect before piece rest kind →
      Cut dialect piece.getLast? (offset + piece.length) rest items →
        Cut dialect before offset (piece ++ rest) (itemOf kind offset piece ++ items)

end Grammar

namespace Scan

open Grammar

variable (dialect : Dialect)

theorem complete_literalBody {body : Text} (hbody : LiteralBody body) (offset start : Nat)
    (items : List Item) (rest : Text) :
    complete dialect ⟨offset, .literal start, items⟩ (body ++ rest) =
      complete dialect ⟨offset + body.length, .literal start, items⟩ rest := by
  induction hbody generalizing offset with
  | nil => rfl
  | char cell body hquote hnull _ ih =>
      rw [List.cons_append, complete_literalChar dialect _ _ _ _ _ hquote hnull, ih]
      simp only [List.length_cons, Nat.add_assoc, Nat.add_comm 1]
  | pair tainted body _ ih =>
      rw [List.cons_append, List.cons_append, complete_literalPair, ih]
      simp only [List.length_cons, Nat.add_assoc, Nat.add_comm 2]

theorem complete_identifierBody {body : Text} (hbody : IdentifierBody body) (offset start : Nat)
    (items : List Item) (rest : Text) :
    complete dialect ⟨offset, .identifier start, items⟩ (body ++ rest) =
      complete dialect ⟨offset + body.length, .identifier start, items⟩ rest := by
  induction hbody generalizing offset with
  | nil => rfl
  | char char body hquote _ ih =>
      rw [List.cons_append, complete_identifierChar dialect _ _ _ _ _ rfl hquote, ih]
      simp only [List.length_cons, Nat.add_assoc, Nat.add_comm 1]
  | pair body _ ih =>
      rw [List.cons_append, List.cons_append, complete_identifierPair, ih]
      simp only [List.length_cons, Nat.add_assoc, Nat.add_comm 2]

theorem complete_lineBody {body : Text}
    (hbody : ∀ cell ∈ body, cell.char ≠ '\r' ∧ cell.char ≠ '\n') (offset start : Nat)
    (items : List Item) (rest : Text) :
    complete dialect ⟨offset, .lineComment start, items⟩ (body ++ rest) =
      complete dialect ⟨offset + body.length, .lineComment start, items⟩ rest := by
  induction body generalizing offset with
  | nil => rfl
  | cons cell body ih =>
      have hcell := isLineEnd_eq_false_iff.mpr (hbody cell (by simp))
      rw [List.cons_append, complete_lineChar dialect _ _ _ _ _ hcell,
        ih fun other hother => hbody other (List.mem_cons_of_mem _ hother)]
      simp only [List.length_cons, Nat.add_assoc, Nat.add_comm 1]

theorem change_after (nested : Bool) (level : Nat) (cell : Cell) (next : Char) :
    (Nesting.mk nested level (.of cell.char) cell.tainted).change next = .none ↔
      delimits nested cell.char next = false := by
  simp only [Nesting.change, delimits, Half.of]
  grind

-- The half that the scanner remembers plays no part as long as the body does not complete it.
theorem complete_blockBody {nested : Bool} {level : Nat} {body : Text}
    (hbody : BlockBody nested level body) (offset start : Nat) (half : Half) (lastTainted : Bool)
    (items : List Item) (rest : Text) (hlevel : level ≠ 0)
    (hidle : ∀ next ∈ body.head?,
      (Nesting.mk nested level half lastTainted).change next.char = .none) :
    complete dialect ⟨offset, .blockComment start ⟨nested, level, half, lastTainted⟩, items⟩
        (body ++ rest) =
      complete dialect
        ⟨offset + body.length, .code true,
          ⟨.blockComment, start, offset + body.length⟩ :: items⟩ rest := by
  induction hbody generalizing offset half lastTainted with
  | done => exact absurd rfl hlevel
  | close level body hbody ih =>
      rw [List.cons_append, List.cons_append,
        complete_blockClose dialect _ _ _ _ _ (hidle _ rfl) level rfl]
      split
      · rename_i hzero
        subst hzero
        cases hbody
        rfl
      · rename_i hzero
        rw [ih _ _ _ hzero (by simp [Nesting.change])]
        simp only [List.length_cons, Nat.add_assoc, Nat.add_comm 2]
  | deepen level body hnested _ ih =>
      subst hnested
      rw [List.cons_append, List.cons_append,
        complete_blockDeepen dialect _ _ _ _ _ rfl (hidle _ rfl) (by simp),
        ih _ _ _ (by simp) (by simp [Nesting.change])]
      simp only [List.length_cons, Nat.add_assoc, Nat.add_comm 2]
  | char level cell body hnext _ ih =>
      rw [List.cons_append, complete_blockChar dialect _ _ _ _ _ _ (hidle _ rfl) (by simp),
        ih _ _ _ (by simp) fun next hhead => (change_after ..).mpr (hnext next hhead)]
      simp only [List.length_cons, Nat.add_assoc, Nat.add_comm 1]

-- The scanner is outside of every item before a piece and after it.
theorem complete_piece {before : Option Cell} {piece rest : Text} {kind : Option ItemKind}
    (h : Piece dialect before piece rest kind) (offset : Nat) (items : List Item) :
    complete dialect ⟨offset, .code (separates before), items⟩ (piece ++ rest) =
      complete dialect
        ⟨offset + piece.length, .code (separates piece.getLast?), itemOf kind offset piece ++ items⟩
        rest := by
  cases h with
  | plain char _ hquote hmark hnext =>
      exact complete_plain dialect offset _ items ⟨char, false⟩ rest rfl hquote hmark hnext
  | value _ _ hne htainted hhead hseparates hvalue =>
      obtain ⟨cell, run, rfl⟩ := List.exists_cons_of_ne_nil hne
      have hlast : separates (cell :: run).getLast? = false := by
        rw [List.getLast?_eq_some_getLast hne]
        simp [separates, Cell.isBoundary, htainted _ (List.getLast_mem hne)]
      have hfault : valueFault? (separates before) (Text.chars (cell :: run)) = none := by
        rw [valueFault?_eq_none_iff, isValue, Bool.or_eq_true, Number.isLiteral_iff]
        exact ⟨hseparates, hvalue⟩
      rw [complete_taintedRun dialect _ _ _ _ _ _ htainted hhead, hfault, hlast]
      rfl
  | stringLiteral body _ hbody hhead =>
      have hlast :
          separates (⟨'\'', false⟩ :: (body ++ [⟨'\'', false⟩]) : Text).getLast? = false := by
        simp [List.getLast?_cons, separates, Cell.isBoundary, isSpace, isOperator, isPunctuation]
      rw [List.cons_append, List.append_assoc, complete_openLiteral,
        complete_literalBody dialect hbody, List.singleton_append,
        complete_closeLiteral dialect _ _ _ _ hhead, hlast]
      simp [itemOf, Nat.add_assoc, Nat.add_comm 1]
  | quotedIdentifier body _ hbody hhead =>
      have hlast :
          separates (⟨'"', false⟩ :: (body ++ [⟨'"', false⟩]) : Text).getLast? = false := by
        simp [List.getLast?_cons, separates, Cell.isBoundary, isSpace, isOperator, isPunctuation]
      rw [List.cons_append, List.append_assoc, complete_openIdentifier,
        complete_identifierBody dialect hbody, List.singleton_append,
        complete_closeIdentifier dialect _ _ _ _ hhead, hlast]
      simp [itemOf, Nat.add_assoc, Nat.add_comm 1]
  | lineComment mark ending body _ hmark hbody hending =>
      have hend := isLineEnd_iff.mpr hending
      have hlast := separates_lineEnd hend
      rw [List.cons_append, List.cons_append, List.append_assoc,
        complete_openLineComment dialect _ _ _ _ hmark, complete_lineBody dialect hbody,
        List.singleton_append, complete_closeLine dialect _ _ _ _ _ rfl hend]
      simp [itemOf, hlast, List.getLast?_cons, Nat.add_assoc, Nat.add_comm 2]
  | lastLine mark body hmark hbody =>
      rw [List.cons_append, List.cons_append, complete_openLineComment dialect _ _ _ _ hmark,
        complete_lineBody dialect hbody]
      simp [complete_nil, finish, itemOf, Nat.add_assoc, Nat.add_comm 2]
  | blockComment body _ hbody =>
      have hlast : separates (⟨'/', false⟩ :: ⟨'*', false⟩ :: body : Text).getLast? = true := by
        simp only [List.getLast?_cons, hbody.getLast? (by simp)]
        rfl
      rw [List.cons_append, List.cons_append, complete_openBlockComment, Nesting.opened,
        complete_blockBody dialect hbody _ _ _ _ _ _ (by simp) (by simp [Nesting.change]), hlast]
      simp [itemOf, Nat.add_assoc, Nat.add_comm 2]

-- The scanner accepts what can be cut, and its items are those of the cut.
theorem complete_cut {before : Option Cell} {offset : Nat} {text : Text} {found : List Item}
    (h : Cut dialect before offset text found) (items : List Item) :
    complete dialect ⟨offset, .code (separates before), items⟩ text =
      .ok (found.reverse ++ items) := by
  induction h generalizing items with
  | nil before offset => rfl
  | cons before offset piece rest kind found hpiece _ ih =>
      rw [complete_piece dialect hpiece, ih]
      cases kind <;> simp [itemOf]

end Scan

end QueryTaint
