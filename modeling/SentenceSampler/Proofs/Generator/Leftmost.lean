import SentenceSampler.Proofs.Generator.Soundness

/-!
What a watcher is told. Main statement: the reports of a run, however it ends, are a leftmost
derivation from the yield of the tree it starts with.
-/
namespace SentenceSampler

open Expansion

/-- The watcher that keeps every report, in order. -/
def Watcher.all : Watcher (List Report) := fun report earlier => earlier ++ [report]

/-- Reports, numbered from one, each of which tells that a rule rewrote the leftmost symbol that is no
terminal; and the symbols after the last of them. -/
inductive Leftmost (grammar : Grammar) (start : List Symbol) :
    List Report → List Symbol → Prop where
  | start : Leftmost grammar start [] start
  | step {reports : List Report} {report : Report} {before after : List Symbol}
      (earlier : Leftmost grammar start reports (before ++ [report.rule.lhs] ++ after))
      (number : report.step = reports.length + 1)
      (member : report.rule ∈ grammar.rules)
      (terminal : ∀ token ∈ before, grammar.isTerminal token = true)
      (tokens : report.tokens = before ++ report.rule.rhs ++ after) :
      Leftmost grammar start (reports ++ [report]) report.tokens

variable {σ : Type} {grammar : Grammar} {choose : Chooser σ}

/-- The reports so far are a leftmost derivation of the yield so far. -/
structure Told (grammar : Grammar) (start : List Symbol) (state : State σ (List Report)) : Prop where
  leftmost : Leftmost grammar start state.seen state.tree.yield
  steps : state.steps = state.seen.length

theorem Told.apply {start : List Symbol} {state : State σ (List Report)} {context : Context}
    {rule : Rule} (told : Told grammar start state)
    (filled : state.tree = context.plug (.leaf rule.lhs)) (member : rule ∈ grammar.rules)
    (terminal : ∀ leaf ∈ context.leavesBefore, grammar.isTerminal leaf.2 = true)
    (pending : List Address) (chooser : σ) :
    Told grammar start (state.apply .all context.address pending rule chooser) where
  leftmost := by
    have before : state.tree.yield =
        context.leavesBefore.map Prod.snd ++ [rule.lhs] ++ context.leavesAfter.map Prod.snd := by
      rw [filled, Context.yield_plug, Tree.yield_leaf]
    have after : (state.apply .all context.address pending rule chooser).tree.yield =
        context.leavesBefore.map Prod.snd ++ rule.rhs ++ context.leavesAfter.map Prod.snd := by
      rw [apply_tree filled, Context.yield_plug,
        Tree.yield_node_map_leaf (grammar.rhs_ne_nil rule member)]
    have earlier := told.leftmost
    rw [before] at earlier
    let report : Report := ⟨state.steps + 1, rule,
      (state.apply .all context.address pending rule chooser).tree⟩
    show Leftmost grammar start (state.seen ++ [report]) report.tokens
    refine .step earlier ?_ member ?_ after
    · show state.steps + 1 = state.seen.length + 1
      rw [told.steps]
    · intro token found
      obtain ⟨leaf, present, rfl⟩ := List.mem_map.mp found
      exact terminal leaf present
  steps := by simp [State.apply, Watcher.all, told.steps]

/-- The reports of a run are a leftmost derivation, and where the run finishes they lead to the yield
of its tree, which holds terminals only. -/
theorem Generator.complete_leftmost (generator : Generator) (grammar : Grammar)
    (choose : Chooser σ) (patience : Nat) (tree : Tree) (chooser : σ) :
    let run := generator.complete ⟨grammar, choose, .all⟩ patience tree chooser []
    ∃ last, Leftmost grammar tree.yield run.seen last ∧ run.steps = run.seen.length ∧
      ∀ done, run.ending = .finished done →
        done.yield = last ∧ ∀ token ∈ done.yield, grammar.isTerminal token = true := by
  intro run
  obtain ⟨final, done, later, frontier, told, ending⟩ :=
    (Frontier.initial grammar tree (generator.maxSteps.getD patience) chooser []).run
      ⟨grammar, choose, .all⟩ (Told grammar tree.yield) (fun told => ⟨told.leftmost, told.steps⟩)
      (fun filled member terminal told => told.apply filled member terminal _ _) ⟨.start, rfl⟩
  obtain ⟨_, steps, seen⟩ := frontier.ends ending
  have reported : run.seen = final.seen := seen
  have counted : run.steps = final.steps := steps
  refine ⟨final.tree.yield, reported ▸ told.leftmost, ?_, ?_⟩
  · rw [reported, counted, told.steps]
  · intro done finished
    obtain ⟨last, ran, rfl⟩ := complete_finished finished
    rw [ran] at ending
    cases ending with
    | finished move =>
      obtain ⟨rfl, rfl⟩ := frontier.finished move
      exact ⟨rfl, frontier.tokens_terminal⟩

end SentenceSampler
