import SentenceSampler.Proofs.Expansion.Carrying
import SentenceSampler.Proofs.Generator.Soundness
import SentenceSampler.Proofs.Growth.Simulation

/-!
Generators and growth. Main statement: a run under a limit ends as the growth within a budget of as many
expansions, with the same chooser and the same rules.
-/
namespace SentenceSampler

namespace Generator

variable {σ ω : Type}

theorem complete_rules (generator : Generator) (grammar : Grammar) (choose : Chooser σ)
    (patience : Nat) (tree : Tree) (chooser : σ) :
    let growth := Growth.ofTree grammar choose (generator.maxSteps.getD patience) chooser tree
    ∃ last, (∀ done, growth.result = .ok done → last = done) ∧
      generator.complete ⟨grammar, choose, .rules⟩ patience tree chooser [] =
        ⟨.ofStop generator.maxSteps last growth.stop, growth.applied.length, growth.chooser,
          numbered 0 growth.applied⟩ := by
  intro growth
  obtain ⟨last, pending, ran, grown⟩ :=
    Expansion.run_initial grammar choose tree (generator.maxSteps.getD patience) chooser
  refine ⟨last, grown, ?_⟩
  simp only [complete, ran]
  simp [Expansion.State.after, Expansion.State.initial, growth]

/-- Whoever watches, a run finishes if the tree grows, and with the tree that has grown. -/
theorem complete_growth (generator : Generator) (setting : Expansion.Setting σ ω) (patience : Nat)
    (tree : Tree) (chooser : σ) (seen : ω) :
    let growth := Growth.ofTree setting.grammar setting.choose (generator.maxSteps.getD patience)
      chooser tree
    let run := generator.complete setting patience tree chooser seen
    run.chooser = growth.chooser ∧
      ∀ done, run.ending = .finished done ↔ growth.result = .ok done := by
  intro growth run
  obtain ⟨last, grown, told⟩ :=
    generator.complete_rules setting.grammar setting.choose patience tree chooser
  obtain ⟨same, _, left⟩ := generator.complete_watched setting.grammar setting.choose
    setting.watch .rules patience tree chooser seen []
  rw [told] at same left
  refine ⟨left, fun done => ?_⟩
  have ending : run.ending = .ofStop generator.maxSteps last growth.stop := same
  rw [ending, Ending.ofStop_eq_finished]
  cases result : growth.result with
  | error stop =>
    rw [growth.stop_of_error result]
    simp
  | ok part =>
    rw [growth.stop_of_ok result, grown part result]
    simp

/-- The ending that a growth under a limit says. -/
def Ending.ofGrowth (limit : Nat) (growth : Growth σ Tree) : Ending :=
  match growth.result with
  | .ok tree => .finished tree
  | .error (.outOfAllowance symbol) => .failed (.stepLimitExceeded limit symbol)
  | .error (.failed cause) => .failed cause

/-- Under a limit, to complete a tree address by address is to let it grow by recursion: with the same
tree or failure, the same chooser left, and the same rules reported under the same numbers. -/
theorem complete_eq_growth (limit : Nat) (grammar : Grammar) (choose : Chooser σ) (patience : Nat)
    (tree : Tree) (chooser : σ) :
    let growth := Growth.ofTree grammar choose limit chooser tree
    (Generator.mk (some limit)).complete ⟨grammar, choose, .rules⟩ patience tree chooser [] =
      ⟨.ofGrowth limit growth, growth.applied.length, growth.chooser,
        numbered 0 growth.applied⟩ := by
  intro growth
  obtain ⟨last, grown, told⟩ :=
    (Generator.mk (some limit)).complete_rules grammar choose patience tree chooser
  have ending : Ending.ofStop (some limit) last growth.stop = .ofGrowth limit growth := by
    rcases result : growth.result with (_ | _) | done
    · simp [Growth.stop, Ending.ofGrowth, Ending.ofStop, result]
    · simp [Growth.stop, Ending.ofGrowth, Ending.ofStop, result]
    · simp [Growth.stop, Ending.ofGrowth, Ending.ofStop, result, grown done result]
  rw [told, ← ending]
  rfl

end Generator

end SentenceSampler
