import SentenceSampler.Proofs.Derivation.Productive
import SentenceSampler.Proofs.Generator.Coding
import SentenceSampler.Proofs.Generator.Grown

/-!
Grammars from which something can be generated. Main statement: some script makes a generator return a
tree if the start symbol is productive; if it is not, no chooser does, and one that answers in range
exceeds every limit.
-/
namespace SentenceSampler.Generator

open Chooser (Recorded recorded)
open Expansion

variable {σ ω : Type} {grammar : Grammar}

theorem exists_finishing_script (productive : grammar.Productive grammar.start) :
    ∃ (script : List Nat) (limit : Nat) (tree : Tree),
      ∀ {ω : Type} (watch : Watcher ω) (patience : Nat) (seen : ω),
        ((Generator.mk (some limit)).generate ⟨grammar, Script.choose, watch⟩ patience
          (.ofList script) seen).ending = .finished tree := by
  obtain ⟨tree, root, derives⟩ := productive.exists_derives
  refine ⟨(grammar.calls tree).map Prod.snd, tree.innerCount, tree, fun watch patience seen => ?_⟩
  obtain ⟨_, answers⟩ := Script.answers_ofList (Grammar.calls_lt derives)
  exact (generate_of_answers ⟨grammar, Script.choose, watch⟩ seen root derives answers
    (Nat.le_refl _)).1

/-- What is generated is a derivation, so it starts from a productive symbol. -/
theorem productive_of_finished {setting : Setting σ ω} {outcome : Outcome σ ω} {allowance : Nat}
    (generated : Generated setting allowance outcome) (finished : outcome.stop = none) :
    setting.grammar.Productive setting.grammar.start := by
  cases generated with
  | finished root derives =>
    have nonTerminal := setting.grammar.start_isNonTerminal
    exact (Grammar.productive_iff nonTerminal).mpr ⟨_, root, derives⟩
  | outOfAllowance => cases finished
  | declined => cases finished

/-- Where nothing can be generated, a chooser that answers in range exceeds every limit. -/
theorem exceeded_of_not_productive (unproductive : ¬ grammar.Productive grammar.start) (limit : Nat)
    (choose : Chooser σ) (watch : Watcher ω) (patience : Nat) (chooser : σ) (seen : ω) :
    let run := (Generator.mk (some limit)).generate ⟨grammar, recorded choose, watch⟩ patience
      ⟨chooser, []⟩ seen
    run.chooser.InRange → ∃ symbol, run.ending = .failed (.stepLimitExceeded limit symbol) := by
  intro run inRange
  let setting : Setting (Recorded σ) ω := ⟨grammar, recorded choose, watch⟩
  have generated := run_generated setting limit ⟨chooser, []⟩ seen
  simp only [run, generate, complete, Option.getD_some] at inRange ⊢
  generalize Expansion.run setting _ = outcome at inRange generated ⊢
  have unfinished : outcome.stop ≠ none := fun finished =>
    unproductive (productive_of_finished generated finished)
  cases generated with
  | finished => exact absurd rfl unfinished
  | @outOfAllowance symbol => exact ⟨symbol, rfl⟩
  | declined asked unusable =>
    obtain ⟨index, within, rfl⟩ := inRange.usable asked
    exact absurd (unusable index rfl) (Nat.not_le.mpr within)

/-- Something can be generated exactly if the start symbol is productive. If it is, a script does it
within a finite limit. If it is not, no chooser does under any limit or without one, and every limit is
exceeded by a chooser that answers in range. -/
theorem generate_productive (grammar : Grammar) :
    (grammar.Productive grammar.start →
      ∃ (script : List Nat) (limit : Nat) (tree : Tree),
        ∀ {ω : Type} (watch : Watcher ω) (patience : Nat) (seen : ω),
          ((Generator.mk (some limit)).generate ⟨grammar, Script.choose, watch⟩ patience
            (.ofList script) seen).ending = .finished tree) ∧
      (¬ grammar.Productive grammar.start →
        (∀ {σ ω : Type} (generator : Generator) (choose : Chooser σ) (watch : Watcher ω)
          (patience : Nat) (chooser : σ) (seen : ω) (tree : Tree),
          (generator.generate ⟨grammar, choose, watch⟩ patience chooser seen).ending ≠
            .finished tree) ∧
        ∀ {σ ω : Type} (limit : Nat) (choose : Chooser σ) (watch : Watcher ω) (patience : Nat)
          (chooser : σ) (seen : ω),
          let run := (Generator.mk (some limit)).generate ⟨grammar, recorded choose, watch⟩ patience
            ⟨chooser, []⟩ seen
          run.chooser.InRange →
            ∃ symbol, run.ending = .failed (.stepLimitExceeded limit symbol)) := by
  refine ⟨exists_finishing_script, fun unproductive => ⟨?_, ?_⟩⟩
  · intro σ ω generator choose watch patience chooser seen tree finished
    obtain ⟨last, ran, _⟩ := complete_finished finished
    have generated := run_generated ⟨grammar, choose, watch⟩ (generator.maxSteps.getD patience)
      chooser seen
    exact unproductive (productive_of_finished generated (by rw [ran]))
  · intro σ ω limit choose watch patience chooser seen
    exact exceeded_of_not_productive unproductive limit choose watch patience chooser seen

theorem generate_productive_loop :
    ¬ Grammar.loop.Productive "A" ∧
      (∀ (generator : Generator) (patience : Nat) (script : List Nat) (tree : Tree),
        (generator.generate ⟨.loop, Script.choose, fun _ _ => ()⟩ patience (.ofList script)
          ()).ending ≠ .finished tree) ∧
      ∃ symbol, ((Generator.mk (some 3)).generate ⟨.loop, recorded Script.choose, fun _ _ => ()⟩ 0
        ⟨.ofList [0], []⟩ ()).ending = .failed (.stepLimitExceeded 3 symbol) := by
  have unproductive : ¬ Grammar.loop.Productive Grammar.loop.start :=
    Grammar.loop_not_productive Grammar.loop.start
  obtain ⟨unfinished, exceeded⟩ := (generate_productive .loop).2 unproductive
  refine ⟨Grammar.loop_not_productive "A", fun generator patience script tree => ?_, ?_⟩
  · exact unfinished generator Script.choose _ patience _ () tree
  · apply exceeded 3 Script.choose (fun _ _ => ()) 0 (.ofList [0]) ()
    have answers : ((Generator.mk (some 3)).generate
        ⟨.loop, recorded Script.choose, fun _ _ => ()⟩ 0 ⟨.ofList [0], []⟩ ()).chooser.answers =
          [(1, some 0), (1, some 0), (1, some 0)] := by cbv
    simp [Recorded.InRange, answers]

end SentenceSampler.Generator
