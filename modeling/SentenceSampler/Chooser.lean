/-!
Choosers: every decision of a run is put to one.
-/
namespace SentenceSampler

/-- A chooser is asked with a number of candidates. It answers with the index of one, or declines,
and goes on in its next state. -/
abbrev Chooser (σ : Type) := Nat → σ → Option Nat × σ

namespace Chooser

/-- A chooser with everything it was asked and what it answered, the latest first. -/
structure Recorded (σ : Type) where
  state : σ
  answers : List (Nat × Option Nat)

def recorded {σ : Type} (choose : Chooser σ) : Chooser (Recorded σ) :=
  fun candidates record =>
    let (answer, state) := choose candidates record.state
    (answer, ⟨state, (candidates, answer) :: record.answers⟩)

def Recorded.asked {σ : Type} (record : Recorded σ) : Nat := record.answers.length

/-- The indices that were answered, in order. -/
def Recorded.picks {σ : Type} (record : Recorded σ) : List Nat :=
  record.answers.reverse.filterMap Prod.snd

end Chooser

end SentenceSampler
