import SurvivalArena.Framework.Numerals

/-!
# Mersenne twister

The 32-bit generator of the C++ standard library.  The state is the window of the
last 624 words of the recurrence.
-/

/-- A source of numbers, which hands over what is left of it. -/
class RandomEngine (G : Type) where
  next : G → UInt32 × G

/-- Any sequence of numbers is a source of them. -/
instance : RandomEngine (Nat → UInt32) :=
  ⟨fun sequence => (sequence 0, fun index => sequence (index + 1))⟩

structure MersenneTwister where
  window : List UInt32

namespace MersenneTwister

def stateSize : Nat := 624
def shiftSize : Nat := 397

/-- The words that follow `word`, the one with number `index - 1`. -/
def seedWords : Nat → Nat → UInt32 → List UInt32
  | 0, _, _ => []
  | count + 1, index, word =>
    let next := (1812433253 : UInt32) * (word ^^^ (word >>> 30)) + UInt32.ofNat index
    next :: seedWords count (index + 1) next

def seed (value : UInt32) : MersenneTwister :=
  ⟨value :: seedWords (stateSize - 1) 1 value⟩

def twist (word next : UInt32) : UInt32 :=
  let joined := (word &&& 0x80000000) ||| (next &&& 0x7fffffff)
  (joined >>> 1) ^^^ (if joined &&& 1 = 0 then 0 else 0x9908b0df)

def temper (word : UInt32) : UInt32 :=
  let word := word ^^^ (word >>> 11)
  let word := word ^^^ ((word <<< 7) &&& 0x9d2c5680)
  let word := word ^^^ ((word <<< 15) &&& 0xefc60000)
  word ^^^ (word >>> 18)

def next (engine : MersenneTwister) : UInt32 × MersenneTwister :=
  let word := engine.window.getD shiftSize 0 ^^^
    twist (engine.window.getD 0 0) (engine.window.getD 1 0)
  (temper word, ⟨engine.window.tail ++ [word]⟩)

instance : RandomEngine MersenneTwister := ⟨next⟩

/-- The first number of the generator seeded with its default seed. -/
example : (next (seed 5489)).1 = 3499211612 := by decide +kernel

end MersenneTwister
