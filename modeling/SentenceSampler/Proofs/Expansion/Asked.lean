import SentenceSampler.Proofs.Expansion.Course

/-!
How often a run asks a chooser that keeps a record. Main statement: once for every expansion, and once
more if it ends because the chooser declines.
-/
namespace SentenceSampler

open Chooser (Recorded recorded)

section recorded

variable {σ : Type} {choose : Chooser σ} {candidates : Nat} {record after : Recorded σ}
variable {answer : Option Nat}

theorem Chooser.recorded_answers (asked : recorded choose candidates record = (answer, after)) :
    after.answers = (candidates, answer) :: record.answers := by
  obtain ⟨rfl, rfl⟩ := Prod.mk.inj asked
  rfl

theorem Chooser.recorded_asked (asked : recorded choose candidates record = (answer, after)) :
    after.asked = record.asked + 1 := by
  rw [Recorded.asked, recorded_answers asked, List.length_cons, Recorded.asked]

end recorded

namespace Expansion

variable {σ ω : Type} {choose : Chooser σ} {setting : Setting (Recorded σ) ω}
variable {state next : State (Recorded σ) ω} {outcome : Outcome (Recorded σ) ω}
variable {done later : List (Address × String)}

theorem Progress.asked (recording : setting.choose = recorded choose)
    (progress : Progress setting state next) :
    next.chooser.asked + state.steps = state.chooser.asked + next.steps := by
  cases progress with
  | passed pending => rfl
  | expanded pending filled terminal allowed asked chosen =>
    rw [recording] at asked
    simp only [State.apply, Chooser.recorded_asked asked]
    omega

theorem Frontier.asked (recording : setting.choose = recorded choose)
    (frontier : Frontier setting.grammar state done later) (reaches : Reaches setting state next) :
    next.chooser.asked + state.steps = state.chooser.asked + next.steps := by
  induction reaches with
  | start => rfl
  | move earlier moved ih =>
    obtain ⟨_, _, before⟩ := frontier.reaches earlier
    have own := (before.progress moved).1.asked recording
    omega

theorem Halt.asked (recording : setting.choose = recorded choose)
    (halt : Halt setting state later outcome) :
    outcome.last.chooser.asked = state.chooser.asked ∨
      (∃ symbol, outcome.stop = some (.failed (.emptyRuleSet symbol))) ∧
        outcome.last.chooser.asked = state.chooser.asked + 1 := by
  cases halt with
  | finished => exact .inl rfl
  | unknown => exact .inl rfl
  | outOfAllowance => exact .inl rfl
  | declined nonTerminal allowed asked unusable =>
    rw [recording] at asked
    exact .inr ⟨⟨_, rfl⟩, Chooser.recorded_asked asked⟩

/-- A run asks once for every expansion, and once more if the chooser declines. -/
theorem Frontier.run_asked (recording : setting.choose = recorded choose)
    (frontier : Frontier setting.grammar state done later)
    (ran : Expansion.run setting state = outcome) :
    outcome.last.chooser.asked + state.steps = state.chooser.asked + outcome.last.steps ∨
      (∃ symbol, outcome.stop = some (.failed (.emptyRuleSet symbol))) ∧
        outcome.last.chooser.asked + state.steps =
          state.chooser.asked + outcome.last.steps + 1 := by
  obtain ⟨final, _, _, reaches, _, halt⟩ := frontier.exists_halt
  have earlier := frontier.asked recording reaches
  rw [ran] at halt
  obtain ⟨-, steps, -⟩ := halt.last_eq
  rcases halt.asked recording with none | ⟨declined, once⟩
  · exact .inl (by omega)
  · exact .inr ⟨declined, by omega⟩

theorem Frontier.asked_le (recording : setting.choose = recorded choose)
    (frontier : Frontier setting.grammar state done later) :
    state.chooser.asked ≤ (Expansion.run setting state).last.chooser.asked := by
  obtain ⟨final, _, _, reaches, _, halt⟩ := frontier.exists_halt
  have asked := frontier.asked recording reaches
  have steps := frontier.steps_le reaches
  rcases halt.asked recording with none | ⟨_, once⟩ <;> omega

/-- Where the next leaf is a non-terminal and the allowance is not spent, the chooser is asked again. -/
theorem Frontier.asked_lt {address : Address} {symbol : Symbol}
    (recording : setting.choose = recorded choose)
    (frontier : Frontier setting.grammar state done ((address, symbol) :: later))
    (nonTerminal : setting.grammar.isNonTerminal symbol = true) (allowed : 0 < state.allowance) :
    state.chooser.asked < (Expansion.run setting state).last.chooser.asked := by
  have notTerminal := Grammar.not_isTerminal_of_isNonTerminal nonTerminal
  have turn := frontier.turn setting
  generalize move : advance setting state = moved at turn
  cases turn with
  | passed terminal => simp [notTerminal] at terminal
  | unknown _ notNonTerminal => simp [nonTerminal] at notNonTerminal
  | outOfAllowance _ spent => omega
  | declined _ _ asked _ =>
    rw [recording] at asked
    rw [run_of_stopped move]
    exact Nat.lt_of_lt_of_eq (Nat.lt_succ_self _) (Chooser.recorded_asked asked).symm
  | @expanded _ chooser _ _ _ asked chosen =>
    obtain ⟨_, _, _, following⟩ := frontier.progress move
    rw [recording] at asked
    have once : chooser.asked = state.chooser.asked + 1 := Chooser.recorded_asked asked
    rw [run_of_moved move]
    exact Nat.lt_of_lt_of_le (Nat.lt_of_lt_of_eq (Nat.lt_succ_self _) once.symm)
      (following.asked_le recording)

end Expansion

end SentenceSampler
