namespace QueryTaint

-- A tainted character comes from an untrusted party, a clean one from the program itself.
structure Cell where
  char : Char
  tainted : Bool
  deriving DecidableEq

abbrev Text := List Cell

inductive TextError where
  | bitCount (characters bits : Nat)
  | outOfBounds (start stop length : Nat)
  deriving DecidableEq

def TextError.message : TextError → String
  | bitCount characters bits =>
    "Taint invariant violated: text has " ++ toString characters ++ " codepoints, bitmap has " ++
      toString bits ++ " bits"
  | outOfBounds start stop length =>
    "Range " ++ toString start ++ ".." ++ toString stop ++ " out of bounds for text of length " ++
      toString length

namespace Text

def uniform (tainted : Bool) (characters : List Char) : Text :=
  characters.map (Cell.mk · tainted)

def chars (text : Text) : List Char := text.map Cell.char

def bits (text : Text) : List Bool := text.map Cell.tainted

def string (text : Text) : String := String.ofList text.chars

def ofBits (characters : List Char) (bits : List Bool) : Except TextError Text :=
  if characters.length = bits.length then .ok (characters.zipWith Cell.mk bits)
  else .error (.bitCount characters.length bits.length)

def slice (text : Text) (start stop : Nat) : Except TextError Text :=
  if start ≤ stop ∧ stop ≤ text.length then .ok ((text.take stop).drop start)
  else .error (.outOfBounds start stop text.length)

-- A position past the end reads as clean.
def taintedAt (text : Text) (index : Nat) : Bool := text[index]?.any Cell.tainted

def isTainted (text : Text) : Bool := text.any Cell.tainted

def taintCount (text : Text) : Nat := text.countP Cell.tainted

def contains (text : Text) (char : Char) : Bool := text.any (·.char = char)

-- A position past the end has no bit to change.
def setTaint (text : Text) (index : Nat) (tainted : Bool) : Text :=
  text.modify index fun cell => { cell with tainted }

-- Only the letters A to Z have two cases here.
def endsWithIgnoringCase (text : Text) (ending : List Char) : Bool :=
  (ending.map Char.toLower).isSuffixOf (text.chars.map Char.toLower)

@[simp] theorem chars_append (left right : Text) :
    (left ++ right).chars = left.chars ++ right.chars :=
  List.map_append

@[simp] theorem chars_uniform (tainted : Bool) (characters : List Char) :
    (uniform tainted characters).chars = characters := by
  induction characters with
  | nil => rfl
  | cons char characters ih => simpa [uniform, chars] using ih

theorem tainted_of_mem_uniform {tainted : Bool} {characters : List Char} {cell : Cell}
    (h : cell ∈ uniform tainted characters) : cell.tainted = tainted := by
  obtain ⟨_, _, rfl⟩ := List.mem_map.mp h
  rfl

theorem eq_uniform {tainted : Bool} {text : Text} (h : ∀ cell ∈ text, cell.tainted = tainted) :
    text = uniform tainted text.chars := by
  induction text with
  | nil => rfl
  | cons cell text ih =>
      obtain rfl := h cell (by simp)
      exact congrArg (cell :: ·) (ih fun other hother => h other (List.mem_cons_of_mem _ hother))

theorem length_chars (text : Text) : text.chars.length = text.length := List.length_map ..

end Text

end QueryTaint
