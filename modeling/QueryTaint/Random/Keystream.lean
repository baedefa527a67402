import QueryTaint.Random.Source

namespace QueryTaint

abbrev Block := Vector UInt32 16

namespace Block

def rotateLeft (word count : UInt32) : UInt32 := word <<< count ||| word >>> (32 - count)

def quarterRound (block : Block) (a b c d : Fin 16) : Block :=
  let half (block : Block) (left right : UInt32) : Block :=
    let sum := block[a] + block[b]
    let block := block.set a.val sum a.isLt
    let block := block.set d.val (rotateLeft (block[d] ^^^ sum) left) d.isLt
    let sum := block[c] + block[d]
    let block := block.set c.val sum c.isLt
    block.set b.val (rotateLeft (block[b] ^^^ sum) right) b.isLt
  half (half block 16 12) 8 7

-- One round over the columns and one over the diagonals.
def doubleRound (block : Block) : Block :=
  let block := block.quarterRound 0 4 8 12
  let block := block.quarterRound 1 5 9 13
  let block := block.quarterRound 2 6 10 14
  let block := block.quarterRound 3 7 11 15
  let block := block.quarterRound 0 5 10 15
  let block := block.quarterRound 1 6 11 12
  let block := block.quarterRound 2 7 8 13
  block.quarterRound 3 4 9 14

-- Four constant words, the key, the number of the block with the low half first, and the nonce.
def initial (key : Vector UInt32 8) (number : UInt64) : Block :=
  #v[0x61707865, 0x3320646e, 0x79622d32, 0x6b206574,
    key[0], key[1], key[2], key[3], key[4], key[5], key[6], key[7],
    number.toUInt32, (number >>> 32).toUInt32, 0, 0]

-- The ChaCha block function with eight rounds.
def keystream (key : Vector UInt32 8) (number : UInt64) : Block :=
  let input := initial key number
  let mixed := input.doubleRound.doubleRound.doubleRound.doubleRound
  mixed.zipWith (· + ·) input

end Block

-- A place in the stream: the block that is being read and the next word of it.
structure Keystream where
  key : Vector UInt32 8
  number : UInt64
  block : Block
  position : Fin 16

namespace Keystream

def ofKey (key : Vector UInt32 8) : Keystream := ⟨key, 0, .keystream key 0, 0⟩

-- A congruential generator of 64 bits steps once for every word; its output is folded and turned.
def stretch (state : UInt64) : UInt64 × UInt32 :=
  let state := state * 6364136223846793005 + 11634580027462260723
  let folded := (((state >>> 18) ^^^ state) >>> 27).toUInt32
  let turn := (state >>> 59).toUInt32
  (state, Block.rotateLeft folded (32 - turn))

def ofSeed (seed : UInt64) : Keystream :=
  let (seed, word0) := stretch seed
  let (seed, word1) := stretch seed
  let (seed, word2) := stretch seed
  let (seed, word3) := stretch seed
  let (seed, word4) := stretch seed
  let (seed, word5) := stretch seed
  let (seed, word6) := stretch seed
  let (_, word7) := stretch seed
  ofKey #v[word0, word1, word2, word3, word4, word5, word6, word7]

def word32 (stream : Keystream) : UInt32 × Keystream :=
  let word := stream.block[stream.position]
  if h : stream.position.val + 1 < 16 then (word, { stream with position := ⟨_, h⟩ })
  else
    let number := stream.number + 1
    (word, ⟨stream.key, number, .keystream stream.key number, 0⟩)

-- The low half comes first.
def word64 (stream : Keystream) : UInt64 × Keystream :=
  let (low, stream) := stream.word32
  let (high, stream) := stream.word32
  (high.toUInt64 <<< 32 ||| low.toUInt64, stream)

-- The stream repeats itself after this many words, two to the power of 68, so that a draw that all
-- of them fail would never end.
def period : Nat := 0x100000000000000000

-- Spreads one of `size` numbers evenly over a range: the quotient of the product by the size is the
-- choice, and the number is drawn again if the remainder lies outside of the zone that every choice
-- has in full.
def spread (size range zone : Nat) (positive : 0 < range)
    (draw : Keystream → Fin size × Keystream) : Nat → Keystream → Fin range × Keystream
  | fuel, stream =>
    let (number, stream) := draw stream
    let product := number.val * range
    have bounded : product < size * range := Nat.mul_lt_mul_of_pos_right number.isLt positive
    let choice : Fin range := ⟨product / size, Nat.div_lt_of_lt_mul bounded⟩
    match fuel with
    | 0 => (choice, stream)
    | fuel + 1 =>
      if product % size ≤ zone then (choice, stream)
      else spread size range zone positive draw fuel stream

def size32 : Nat := 0x100000000

def size64 : Nat := 0x10000000000000000

def fin32 (stream : Keystream) : Fin size32 × Keystream :=
  let (word, stream) := stream.word32
  (word.toFin, stream)

def fin64 (stream : Keystream) : Fin size64 × Keystream :=
  let (word, stream) := stream.word64
  (word.toFin, stream)

-- The range shifted up as far as `bits` bits hold it, less one.
def shiftedZone (bits range : Nat) : Nat := range <<< (bits - 1 - range.log2) - 1

-- The largest multiple of the range up to the size, less one.
def fullZone (size range : Nat) : Nat := size - 1 - (size - range) % range

-- How many characters there are: all code points but the surrogates.
def scalarCount : Nat := 0x110000 - 0x800

def scalarOf (index : Nat) : Char :=
  let code := index + 0x800
  Char.ofNat (if code ≤ 0xdfff then code - 0x800 else code)

instance : Source Keystream where
  coin stream :=
    let (word, stream) := stream.word32
    (word >>> 31 = 1, stream)
  below bound positive := spread size64 bound (shiftedZone 64 bound) positive fin64 period
  below32 bound positive :=
    spread size32 bound.toNat (shiftedZone 32 bound.toNat) positive fin32 period
  scalar stream :=
    let (index, stream) :=
      spread size32 scalarCount (fullZone size32 scalarCount) (by decide) fin32 period stream
    (scalarOf index, stream)

end Keystream

end QueryTaint
