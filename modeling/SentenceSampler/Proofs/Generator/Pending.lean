import SentenceSampler.Proofs.Expansion.Pending
import SentenceSampler.Proofs.Generator.Failing

/-!
The pending addresses of a run. Main statement: before every move they are the last of the leaf addresses in
lexicographic order, and the run takes them in that order, each at a leaf and none twice.
-/
namespace SentenceSampler

namespace Expansion

variable {σ ω : Type} {grammar : Grammar} {address : Address} {pending : List Address}
variable {done later : List (Address × String)}

/-- The pending addresses are in order and the last of all leaf addresses. There is a leaf at each of them,
and a terminal at all the others. -/
structure Orderly (grammar : Grammar) (state : State σ ω) : Prop where
  ascending : state.pending.Pairwise Address.Before
  leaf : ∀ address ∈ state.pending, ∃ symbol, state.tree.nodeAt? address = some (.leaf symbol)
  last : ∃ passed, state.tree.leafAddresses = passed ++ state.pending ∧ ∀ address ∈ passed,
    ∃ symbol, state.tree.nodeAt? address = some (.leaf symbol) ∧ grammar.isTerminal symbol = true

theorem Frontier.orderly {state : State σ ω} (frontier : Frontier grammar state done later) :
    Orderly grammar state where
  ascending := frontier.ascending
  leaf := by
    intro address member
    rw [frontier.pending] at member
    obtain ⟨⟨_, symbol⟩, among, rfl⟩ := List.mem_map.mp member
    exact ⟨symbol, frontier.found (List.mem_append_right done among)⟩
  last := by
    refine ⟨done.map Prod.fst, ?_, ?_⟩
    · rw [Tree.leafAddresses_eq_leaves, frontier.leaves, List.map_append, frontier.pending]
    · intro address member
      obtain ⟨⟨_, symbol⟩, among, rfl⟩ := List.mem_map.mp member
      exact ⟨symbol, frontier.found (List.mem_append_left later among), frontier.terminal _ among⟩

theorem Frontier.keeps {setting : Setting σ ω} {earlier following : State σ ω}
    (frontier : Frontier setting.grammar earlier done later)
    (reaches : Reaches setting earlier following) : earlier.tree.Keeps following.tree := by
  obtain ⟨parts, grafted, -⟩ := frontier.extension reaches
  exact grafted.keeps

theorem Frontier.heads_keep {setting : Setting σ ω} {start : State σ ω}
    (frontier : Frontier setting.grammar start done later) :
    (heads setting start).Pairwise fun earlier following => earlier.tree.Keeps following.tree := by
  refine (heads_pairwise setting start).imp_of_mem ?_
  rintro earlier following member - ⟨next, moved, reaches⟩
  obtain ⟨_, _, here⟩ := frontier.of_mem_heads member
  exact here.keeps ((Reaches.start.move moved).trans reaches)

/-! As many addresses as leaves -/

variable {setting : Setting σ (List Report)} {state next last : State σ (List Report)}

/-- One address is taken, and as many are put as the reported rule has symbols on its right-hand side. -/
theorem Takes.length (all : setting.watch = .all) (takes : Takes setting state address pending next) :
    next.pending.length + (state.seen.map fun report => report.rule.rhs.length).sum =
      pending.length + (next.seen.map fun report => report.rule.rhs.length).sum := by
  cases takes with
  | passed => rfl
  | expanded rule chooser =>
    simp only [State.apply, childAddresses, all, Watcher.all, List.length_append, List.length_map,
      List.length_range, List.map_append, List.sum_append, List.map_singleton, List.sum_singleton]
    omega

theorem Frontier.length_taken (all : setting.watch = .all)
    (frontier : Frontier setting.grammar state done later)
    (finished : Expansion.run setting state = ⟨none, last⟩) :
    (taken setting state).length + (state.seen.map fun report => report.rule.rhs.length).sum =
      state.pending.length + (last.seen.map fun report => report.rule.rhs.length).sum := by
  fun_induction Expansion.run setting state generalizing done later with
  | case1 state final move =>
    obtain ⟨rfl, same⟩ := frontier.finished move
    have none : state.pending = [] := frontier.pending
    rw [← (Outcome.mk.inj finished).2, same, taken_of_finished move none, none]
  | case2 state cause final move => cases finished
  | case3 state next move ih =>
    obtain ⟨_, _, _, following⟩ := frontier.progress move
    obtain ⟨address, pending, first, takes⟩ := exists_takes move
    have rest := ih following finished
    have put := takes.length all
    rw [taken_of_moved first move, first, List.length_cons, List.length_cons]
    omega

end Expansion

open Expansion

namespace Generator

variable {σ : Type}

/-- There is a node at every address that a run takes. -/
theorem complete_ne_noNode {ω : Type} (generator : Generator) (setting : Setting σ ω) (patience : Nat)
    (tree : Tree) (chooser : σ) (seen : ω) (address : Address) :
    (generator.complete setting patience tree chooser seen).ending ≠
      .failed (.invalidGrammar (.noNode address)) := by
  intro failed
  cases complete_fails failed with
  | declined declined =>
    obtain ⟨_, _, _, other, -⟩ := declined
    cases other
  | exceeded exceeded =>
    obtain ⟨_, _, -, other⟩ := exceeded
    cases other

/-- Before every move of a run the pending addresses are in lexicographic order, the last of the leaf
addresses of the tree, and behind terminals only. So there is a leaf wherever an address is taken, no node
with children ever loses them, and the addresses are taken in lexicographic order and none twice. A run
that finishes takes as many as its tree had leaves and its rules had symbols on their right-hand sides. -/
theorem complete_orderly (generator : Generator) (grammar : Grammar) (choose : Chooser σ)
    (patience : Nat) (tree : Tree) (chooser : σ) :
    let setting : Setting σ (List Report) := ⟨grammar, choose, .all⟩
    let start := State.initial tree (generator.maxSteps.getD patience) chooser []
    let run := generator.complete setting patience tree chooser []
    (∀ head ∈ heads setting start, Orderly grammar head) ∧
      (heads setting start).Pairwise (fun earlier later => earlier.tree.Keeps later.tree) ∧
      (∀ address, run.ending ≠ .failed (.invalidGrammar (.noNode address))) ∧
      (taken setting start).Pairwise Address.Before ∧ (taken setting start).Nodup ∧
      ∀ done, run.ending = .finished done →
        (taken setting start).length = tree.leafAddresses.length +
          (run.seen.map fun report => report.rule.rhs.length).sum := by
  intro setting start run
  have frontier : Frontier setting.grammar start [] tree.leaves := Frontier.initial _ _ _ _ _
  have ascending := frontier.taken_ascending
  refine ⟨?_, frontier.heads_keep, complete_ne_noNode generator setting patience tree chooser [], ascending,
    Address.Before.nodup ascending, ?_⟩
  · intro head member
    obtain ⟨_, _, here⟩ := frontier.of_mem_heads member
    exact here.orderly
  · intro done finished
    obtain ⟨last, ran, -⟩ := complete_finished finished
    have counted := frontier.length_taken rfl ran
    have seen : run.seen = last.seen := congrArg (fun outcome => outcome.last.seen) ran
    rw [seen]
    exact counted

/-- Two leaves at first, and five symbols on the right-hand sides of three rules. -/
theorem complete_orderly_names :
    let tree : Tree := .node "?" [.leaf "x", .leaf "N"]
    let setting : Setting Script (List Report) := ⟨.names, Script.choose, .all⟩
    (Generator.complete ⟨some 3⟩ setting 0 tree (.ofList [1, 0, 0]) []).ending =
        .finished (.node "?" [.leaf "x", .pair]) ∧
      (taken setting (.initial tree 3 (.ofList [1, 0, 0]) [])).length = 2 + 5 := by
  let run := Generator.complete ⟨some 3⟩ ⟨.names, Script.choose, .all⟩ 0 (.node "?" [.leaf "x", .leaf "N"])
    (.ofList [1, 0, 0]) []
  have ending : run.ending = .finished (.node "?" [.leaf "x", .pair]) := by
    unfold run
    cbv
  have symbols : (run.seen.map fun report => report.rule.rhs.length) = [3, 1, 1] := by
    unfold run
    cbv
  have leaves : (Tree.node "?" [.leaf "x", .leaf "N"]).leafAddresses.length = 2 := by cbv
  obtain ⟨-, -, -, -, -, counted⟩ :=
    complete_orderly ⟨some 3⟩ .names Script.choose 0 (.node "?" [.leaf "x", .leaf "N"]) (.ofList [1, 0, 0])
  have all := counted _ ending
  rw [symbols, leaves] at all
  exact ⟨ending, all⟩

end Generator

end SentenceSampler
