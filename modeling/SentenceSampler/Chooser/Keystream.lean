import SentenceSampler.Chooser.Uniform

/-!
The words of a seed: a ChaCha stream of twelve rounds, whose key is made from the seed by a
permuted congruential generator.
-/
namespace SentenceSampler

namespace Keystream

/-- The sixteen words that one block is made of. -/
abbrev Block := Vector UInt32 16

def rotateLeft (word amount : UInt32) : UInt32 := (word <<< amount) ||| (word >>> (32 - amount))

def rotateRight (word amount : UInt32) : UInt32 := rotateLeft word ((32 - amount) % 32)

/-- Adds one word to a second, and mixes the sum into a third, which is rotated. -/
def mix (block : Block) (sum addend mixed : Fin 16) (amount : UInt32) : Block :=
  let block := block.set sum (block[sum] + block[addend])
  block.set mixed (rotateLeft (block[mixed] ^^^ block[sum]) amount)

def quarterRound (block : Block) (a b c d : Fin 16) : Block :=
  let block := mix block a b d 16
  let block := mix block c d b 12
  let block := mix block a b d 8
  mix block c d b 7

/-- The four columns, then the four diagonals. -/
def doubleRound (block : Block) : Block :=
  let block := quarterRound block 0 4 8 12
  let block := quarterRound block 1 5 9 13
  let block := quarterRound block 2 6 10 14
  let block := quarterRound block 3 7 11 15
  let block := quarterRound block 0 5 10 15
  let block := quarterRound block 1 6 11 12
  let block := quarterRound block 2 7 8 13
  quarterRound block 3 4 9 14

/-- The constants, the key, the counter, lower half first, and two zeros. -/
def firstBlock (key : Vector UInt32 8) (counter : UInt64) : Block :=
  let constants : Vector UInt32 4 := #v[0x61707865, 0x3320646E, 0x79622D32, 0x6B206574]
  let place : Vector UInt32 4 := #v[counter.toUInt32, (counter >>> 32).toUInt32, 0, 0]
  constants ++ key ++ place

/-- Twelve rounds, and the first block added to the result. -/
def block (key : Vector UInt32 8) (counter : UInt64) : Block :=
  let start := firstBlock key counter
  Vector.zipWith (· + ·) (Nat.repeat doubleRound 6 start) start

end Keystream

/-- The key, the number of blocks taken from it, and the words left of the last one. -/
structure Keystream where
  key : Vector UInt32 8
  counter : UInt64
  left : List UInt32

namespace Keystream

/-- One step of the generator that makes the key: its next state. -/
def advanceSeed (state : UInt64) : UInt64 := state * 6364136223846793005 + 11634580027462260723

/-- The word of a state: two shifts folded into it, and a rotation by its highest bits. -/
def seedWord (state : UInt64) : UInt32 :=
  rotateRight (((state >>> 18) ^^^ state) >>> 27).toUInt32 (state >>> 59).toUInt32

/-- The words of the states that follow. -/
def seedWords : Nat → UInt64 → List UInt32
  | 0, _ => []
  | count + 1, state =>
    let state := advanceSeed state
    seedWord state :: seedWords count state

def ofSeed (seed : UInt64) : Keystream :=
  ⟨Vector.ofFn fun place => (seedWords 8 seed)[place.val]?.getD 0, 0, []⟩

/-- The next two words as one, the lower half first. A block has an even number of words. -/
def draw : Uniform.Draw Keystream := fun stream =>
  let (left, counter) := match stream.left with
    | _ :: _ :: _ => (stream.left, stream.counter)
    | _ => ((block stream.key stream.counter).toList, stream.counter + 1)
  match left with
  | low :: high :: left =>
    ((high.toUInt64 <<< 32) ||| low.toUInt64, { stream with counter, left })
  | _ => (0, { stream with counter, left })

end Keystream

end SentenceSampler
