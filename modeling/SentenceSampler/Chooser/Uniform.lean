import SentenceSampler.Chooser

/-!
Unbiased picks from a source of 64-bit words. A word is multiplied by the number of candidates; the
high half of the product is the pick, and the low half decides whether the word is used, so that
every candidate has the same number of words.
-/
namespace SentenceSampler.Uniform

/-- A source of 64-bit words. -/
abbrev Draw (σ : Type) := σ → UInt64 × σ

def leadingZeros (candidates : Nat) : Nat := 63 - candidates.log2

/-- The greatest low half of a word that is used. -/
def zone (candidates : Nat) : Nat := (candidates <<< leadingZeros candidates) - 1

/-- The candidate a word stands for, if it is used. -/
def pick? (candidates : Nat) (word : UInt64) : Option Nat :=
  let product := word.toNat * candidates
  if product % UInt64.size ≤ zone candidates then some (product / UInt64.size) else none

/-- The pick of the first word that is used, out of at most `patience` words. -/
def drawPick {σ : Type} (draw : Draw σ) (candidates : Nat) : Nat → σ → Option Nat × σ
  | 0, state => (none, state)
  | patience + 1, state =>
    let (word, state) := draw state
    match pick? candidates word with
    | some index => (some index, state)
    | none => drawPick draw candidates patience state

/-- No word is drawn where there are no candidates. At least half of all words are used, so a source
that is any good never tries the patience of its chooser. -/
def choose {σ : Type} (draw : Draw σ) (patience : Nat) : Chooser σ := fun candidates state =>
  if candidates = 0 then (none, state) else drawPick draw candidates patience state

/-- Words that come round again and again; an empty list gives zeros. -/
structure Cycle where
  words : Array UInt64
  drawn : Nat
deriving Repr

def Cycle.ofList (words : List UInt64) : Cycle := ⟨words.toArray, 0⟩

def Cycle.draw : Draw Cycle := fun cycle =>
  (cycle.words[cycle.drawn % cycle.words.size]?.getD 0, { cycle with drawn := cycle.drawn + 1 })

end SentenceSampler.Uniform
