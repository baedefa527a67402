import QueryTaint.Value
import QueryTaint.Lexis.Nesting

namespace QueryTaint

-- The features of a query language that the scanner has to know.
structure Dialect where
  -- Whether a block comment may stand inside a block comment.
  nestedComments : Bool
  deriving DecidableEq

inductive ItemKind where
  | stringLiteral
  | quotedIdentifier
  | lineComment
  | blockComment
  | value
  deriving DecidableEq

structure Item where
  kind : ItemKind
  span : Span
  deriving DecidableEq

namespace Scan

-- What the cells read so far leave open. The scanner never looks ahead: where the meaning of a cell
-- hangs on the next one, the next cell or the end of the query decides.
inductive Context where
  -- Outside of every item; a value may begin here if the last cell separates it.
  | code (separated : Bool)
  -- Outside, right after a clean `-` or `/`, which may be half of a comment opener.
  | half (start : Nat) (first : Char)
  -- In a tainted run; its characters stand latest first.
  | value (start : Nat) (separated : Bool) (read : List Char)
  | literal (start : Nat)
  -- After a quote in a literal: the end of it, or the first half of an escape.
  | literalQuote (start quote : Nat) (tainted : Bool)
  | identifier (start : Nat)
  | identifierQuote (start : Nat)
  | lineComment (start : Nat)
  | blockComment (start : Nat) (nesting : Nesting)
  deriving DecidableEq

structure State where
  offset : Nat
  context : Context
  -- The items that are complete, latest first.
  items : List Item

namespace State

def start : State := ⟨0, .code true, []⟩

-- Reads one cell and is in `context` after it.
def enter (state : State) (context : Context) : State :=
  { state with offset := state.offset + 1, context }

-- Completes an item, which ends before the position `stop`.
def close (state : State) (kind : ItemKind) (start stop : Nat) : State :=
  { state with items := ⟨kind, start, stop⟩ :: state.items }

end State

def violation {α : Type} (kind : ViolationKind) (offset : Nat) : Except Rejection α :=
  .error (.violation ⟨kind, offset⟩)

-- The context after a cell that stands outside of every item.
def outside (separated : Bool) (offset : Nat) (cell : Cell) : Context :=
  if cell.tainted then .value offset separated [cell.char]
  else if cell.char = '\'' then .literal offset
  else if cell.char = '"' then .identifier offset
  else if cell.char = '-' ∨ cell.char = '/' then .half offset cell.char
  else .code cell.isBoundary

-- The comment that two neighbours open, at the position of the first one.
def opened? (dialect : Dialect) (first second : Char) (start : Nat) : Option Context :=
  if (first = '-' ∧ second = '-') ∨ (first = '/' ∧ second = '/') then some (.lineComment start)
  else if first = '/' ∧ second = '*' then
    some (.blockComment start (.opened dialect.nestedComments))
  else none

-- Judges a tainted run that ends here.
def closeValue (state : State) (start : Nat) (separated : Bool) (read : List Char) :
    Except Rejection State :=
  match valueFault? separated read.reverse with
  | some kind => violation kind start
  | none => .ok (state.close .value start state.offset)

-- Ends a literal at a quote that the next cell does not double.
def closeLiteral (state : State) (start quote : Nat) (tainted : Bool) : Except Rejection State :=
  if tainted then violation .closingQuote quote
  else .ok (state.close .stringLiteral start state.offset)

def step (dialect : Dialect) (state : State) (cell : Cell) : Except Rejection State :=
  match state.context with
  | .code separated => .ok (state.enter (outside separated state.offset cell))
  | .half start first =>
    match opened? dialect first cell.char start with
    | some comment =>
      if cell.tainted then violation .commentDelimiter state.offset else .ok (state.enter comment)
    | none => .ok (state.enter (outside true state.offset cell))
  | .value start separated read =>
    if cell.tainted then .ok (state.enter (.value start separated (cell.char :: read)))
    else do
      let state ← closeValue state start separated read
      .ok (state.enter (outside false state.offset cell))
  | .literal start =>
    if cell.char = '\'' then .ok (state.enter (.literalQuote start state.offset cell.tainted))
    else if cell.char = '\x00' ∧ cell.tainted then violation .nullByte state.offset
    else .ok (state.enter (.literal start))
  | .literalQuote start quote tainted =>
    if cell.char = '\'' then
      if cell.tainted = tainted then .ok (state.enter (.literal start))
      else violation .mixedQuoteEscape quote
    else do
      let state ← closeLiteral state start quote tainted
      .ok (state.enter (outside false state.offset cell))
  | .identifier start =>
    if cell.tainted then violation .identifier state.offset
    else if cell.char = '"' then .ok (state.enter (.identifierQuote start))
    else .ok (state.enter (.identifier start))
  | .identifierQuote start =>
    if cell.char = '"' then
      if cell.tainted then violation .identifier state.offset
      else .ok (state.enter (.identifier start))
    else
      let state := state.close .quotedIdentifier start state.offset
      .ok (state.enter (outside false state.offset cell))
  | .lineComment start =>
    if isLineEnd cell.char then
      if cell.tainted then violation .lineTerminator state.offset
      else .ok ((state.close .lineComment start (state.offset + 1)).enter (.code true))
    else .ok (state.enter (.lineComment start))
  | .blockComment start nesting =>
    if nesting.taintedChange cell then violation .nesting state.offset
    else
      let nesting := nesting.next cell
      if nesting.isClosed then
        .ok ((state.close .blockComment start (state.offset + 1)).enter (.code true))
      else .ok (state.enter (.blockComment start nesting))

-- What the end of the query makes of an open context.
def finish (state : State) : Except Rejection State :=
  match state.context with
  | .code _ | .half _ _ => .ok state
  | .value start separated read => closeValue state start separated read
  | .literal start => .error (.malformed "string literal" start)
  | .literalQuote start quote tainted => closeLiteral state start quote tainted
  | .identifier start => .error (.malformed "quoted identifier" start)
  | .identifierQuote start => .ok (state.close .quotedIdentifier start state.offset)
  | .lineComment start => .ok (state.close .lineComment start state.offset)
  | .blockComment start _ => .error (.malformed "block comment" start)

end Scan

-- The items of a query from left to right.
def scan (dialect : Dialect) (query : Text) : Except Rejection (List Item) := do
  let state ← query.foldlM (Scan.step dialect) .start
  let state ← Scan.finish state
  .ok state.items.reverse

-- Whether a query is safe to run.
def check (dialect : Dialect) (query : Text) : Verdict := do
  let _ ← scan dialect query
  .ok ()

end QueryTaint
