import SentenceSampler.Chooser.Keystream

/-!
Choosers whose answers are given beforehand: a script of picks, read in order and from the start again
when it runs out. And choosers whose kind is known only when the program runs.
-/
namespace SentenceSampler

/-- The picks and how many of them have been made. -/
structure Script where
  picks : Array Nat
  made : Nat
deriving Repr

namespace Script

def ofList (picks : List Nat) : Script := ⟨picks.toArray, 0⟩

/-- Always the first candidate. -/
def first : Script := ofList [0]

/-- The pick whose turn it is; an empty script picks the first candidate. -/
def next (script : Script) : Nat := script.picks[script.made % script.picks.size]?.getD 0

/-- A pick is reduced to the number of candidates. Nothing is picked, and no turn taken, where there
are none. -/
def choose : Chooser Script := fun candidates script =>
  if candidates = 0 then (none, script)
  else (some (script.next % candidates), { script with made := script.made + 1 })

end Script

inductive AnyChooser where
  | script (state : Script)
  | seeded (state : Keystream)
  | words (state : Uniform.Cycle)
  | dictated (answers : List (Option Nat))

namespace AnyChooser

/-- How many words in a row an unbiased chooser lets go by. -/
def patience : Nat := UInt32.size

/-- Answers that were dictated are given whatever the number of candidates; when they run out the
chooser declines. -/
def choose : Chooser AnyChooser := fun candidates chooser =>
  match chooser with
  | .script state =>
    let (answer, state) := Script.choose candidates state
    (answer, .script state)
  | .seeded state =>
    let (answer, state) := Uniform.choose Keystream.draw patience candidates state
    (answer, .seeded state)
  | .words state =>
    let (answer, state) := Uniform.choose Uniform.Cycle.draw patience candidates state
    (answer, .words state)
  | .dictated (answer :: answers) => (answer, .dictated answers)
  | .dictated [] => (none, .dictated [])

end AnyChooser

end SentenceSampler
