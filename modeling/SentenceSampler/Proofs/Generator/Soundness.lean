import SentenceSampler.Chooser.Any
import SentenceSampler.Generator
import SentenceSampler.Proofs.Derivation
import SentenceSampler.Proofs.Expansion.Course

/-!
What a finished run returns. Main statement: whatever the chooser answers, a tree that is generated
is a complete derivation tree from the start symbol.
-/
namespace SentenceSampler

open Expansion

variable {σ ω : Type} {generator : Generator} {setting : Setting σ ω} {patience : Nat}
variable {tree done : Tree} {chooser : σ} {seen : ω}

theorem Generator.Ending.ofStop_eq_finished {maxSteps : Option Nat} {stop : Option Stop} :
    Ending.ofStop maxSteps tree stop = .finished done ↔ stop = none ∧ tree = done := by
  rcases stop with _ | ⟨symbol⟩ | ⟨cause⟩
  · simp [ofStop]
  · cases maxSteps <;> simp [ofStop]
  · simp [ofStop]

/-- A run that finishes returns the tree of its last state. -/
theorem Generator.complete_finished
    (finished : (generator.complete setting patience tree chooser seen).ending = .finished done) :
    ∃ last, run setting (.initial tree (generator.maxSteps.getD patience) chooser seen) =
      ⟨none, last⟩ ∧ last.tree = done := by
  obtain ⟨stop, same⟩ := Ending.ofStop_eq_finished.mp finished
  exact ⟨_, by rw [← stop], same⟩

namespace Expansion

theorem Frontier.tokens_terminal {grammar : Grammar} {state : State σ ω}
    {done : List (Address × String)} (frontier : Frontier grammar state done []) :
    ∀ token ∈ state.tree.yield, grammar.isTerminal token = true := by
  intro token member
  obtain ⟨address, found⟩ : ∃ address, (address, token) ∈ done := by
    simpa [frontier.yield] using member
  exact frontier.terminal (address, token) found

theorem label_apply (state : State σ ω) (watch : Watcher ω) (address : Address)
    (pending : List Address) (rule : Rule) (chooser : σ) :
    (state.apply watch address pending rule chooser).tree.label = state.tree.label :=
  Tree.label_expandAt (rule.rhs.map .leaf) address state.tree

theorem begins_apply {state : State σ ω} {context : Context} {rule : Rule}
    (filled : state.tree = context.plug (.leaf rule.lhs)) (member : rule ∈ setting.grammar.rules)
    (begins : setting.grammar.Begins state.tree) (pending : List Address) (chooser : σ) :
    setting.grammar.Begins
      (state.apply setting.watch context.address pending rule chooser).tree :=
  begins.expandAt (Context.nodeAt?_of_filled filled) member

end Expansion

/-- A tree that is generated is a complete derivation tree from the start symbol: every node with
children was rewritten by a rule, and every leaf is a terminal, hence none a non-terminal. -/
theorem Generator.generate_derives
    (finished : (generator.generate setting patience chooser seen).ending = .finished tree) :
    tree.label = setting.grammar.start ∧ setting.grammar.Derives tree ∧
      ∀ token ∈ tree.yield, setting.grammar.isTerminal token = true ∧
        setting.grammar.isNonTerminal token = false := by
  obtain ⟨last, ran, rfl⟩ := complete_finished finished
  let holds (state : State σ ω) : Prop :=
    state.tree.label = setting.grammar.start ∧ setting.grammar.Begins state.tree
  have expanded {state : State σ ω} {context : Context} {rule : Rule} {pending : List Address}
      {chooser : σ} (filled : state.tree = context.plug (.leaf rule.lhs))
      (member : rule ∈ setting.grammar.rules) (kept : holds state) :
      holds (state.apply setting.watch context.address pending rule chooser) :=
    ⟨(label_apply state _ _ _ _ _).trans kept.1, begins_apply filled member kept.2 _ _⟩
  have start : holds
      (.initial (.leaf setting.grammar.start) (generator.maxSteps.getD patience) chooser seen) :=
    ⟨rfl, .leaf trivial⟩
  obtain ⟨final, done, later, frontier, ⟨root, begins⟩, ending⟩ :=
    (Frontier.initial setting.grammar _ _ _ _).run setting holds id
      (fun filled member _ kept => expanded filled member kept) start
  rw [ran] at ending
  cases ending with
  | finished move =>
    obtain ⟨rfl, rfl⟩ := frontier.finished move
    have terminal := frontier.tokens_terminal
    refine ⟨root, begins.refine (by simpa [Tree.yield_eq_tokens] using terminal), ?_⟩
    intro token member
    exact ⟨terminal token member,
      Grammar.not_isNonTerminal_of_isTerminal (terminal token member)⟩

theorem Generator.generate_derives_pair :
    ((Generator.mk (some 3)).generate ⟨.names, Script.choose, fun _ _ => ()⟩ 0
      (.ofList [1, 0, 0]) ()).ending = .finished .pair ∧
      Tree.pair.label = "N" ∧ Grammar.names.Derives .pair := by
  have finished : ((Generator.mk (some 3)).generate ⟨.names, Script.choose, fun _ _ => ()⟩ 0
      (.ofList [1, 0, 0]) ()).ending = .finished .pair := by cbv
  obtain ⟨root, derives, _⟩ := generate_derives finished
  exact ⟨finished, root, derives⟩

end SentenceSampler
