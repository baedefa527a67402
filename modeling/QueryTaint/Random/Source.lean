namespace QueryTaint

-- All that is known of a draw is its range.
class Source (σ : Type) where
  coin : σ → Bool × σ
  below : (bound : Nat) → 0 < bound → σ → Fin bound × σ
  below32 : (bound : UInt32) → 0 < bound → σ → Fin bound.toNat × σ
  scalar : σ → Char × σ

abbrev Draw (σ : Type) := StateM σ

namespace Draw

variable {σ : Type} [Source σ]

def coin : Draw σ Bool := Source.coin

-- Any character that is no surrogate.
def scalar : Draw σ Char := Source.scalar

def below (bound : Nat) (positive : 0 < bound) : Draw σ (Fin bound) := Source.below bound positive

-- A number from zero up to the largest one.
def atMost (largest : Nat) : Draw σ (Fin (largest + 1)) := below (largest + 1) largest.succ_pos

-- A number below the bound. With a bound of zero nothing is drawn and the number is zero.
def natBelow (bound : Nat) : Draw σ Nat :=
  if h : 0 < bound then do
    let number ← below bound h
    pure number.val
  else pure 0

-- Happens once in `odds` draws. With odds of zero nothing is drawn and it never happens.
def oneIn (odds : UInt32) : Draw σ Bool :=
  if h : 0 < odds then do
    let number ← fun source => Source.below32 odds h source
    pure (number.val = 0)
  else pure false

-- One of the two, by a coin.
def either {α : Type} (heads tails : α) : Draw σ α := do
  let coin ← coin
  pure (if coin then heads else tails)

-- The results of the same draw made again and again.
def times {α : Type} (draw : Draw σ α) : Nat → Draw σ (List α)
  | 0 => pure []
  | count + 1 => do
    let first ← draw
    let rest ← times draw count
    pure (first :: rest)

end Draw

end QueryTaint
