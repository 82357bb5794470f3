import SentenceSampler.Proofs.Expansion.Extension
import SentenceSampler.Proofs.Generator.Resumption

/-!
What a finished run makes of the tree that it starts with. Main statement: complete derivations stand in
place of its non-terminal leaves, nothing else has changed, and there is nothing left to be done.
-/
namespace SentenceSampler

open Chooser (recorded)
open Expansion

variable {grammar : Grammar}

namespace Grammar

/-- A node of a tree, and what stands in its place when the tree is complete. -/
inductive Replaces (grammar : Grammar) : Tree → Tree → Prop where
  | inner {label : String} {children grown : List Tree} (inner : children ≠ [])
      (count : grown.length = children.length) :
      Replaces grammar (.node label children) (.node label grown)
  | terminal {symbol : Symbol} (terminal : grammar.isTerminal symbol = true) :
      Replaces grammar (.leaf symbol) (.leaf symbol)
  | nonTerminal {part : Tree} (nonTerminal : grammar.isNonTerminal part.label = true)
      (derives : grammar.Derives part) : Replaces grammar (.leaf part.label) part

/-- Every node of a tree is found at its address when the tree is complete, and there are no other nodes
than those below its non-terminal leaves. -/
structure Completes (grammar : Grammar) (tree done : Tree) : Prop where
  kept {address : Address} {node : Tree} (found : tree.nodeAt? address = some node) :
    ∃ node', done.nodeAt? address = some node' ∧ grammar.Replaces node node'
  only {address : Address} {node' : Tree} (found : done.nodeAt? address = some node') :
    (∃ node, tree.nodeAt? address = some node) ∨
      ∃ above below symbol, address = above ++ below ∧
        tree.nodeAt? above = some (.leaf symbol) ∧ grammar.isNonTerminal symbol = true

/-- A complete derivation is a terminal, or it begins with a non-terminal. -/
theorem Derives.replaces {part : Tree} (derives : grammar.Derives part) :
    grammar.Replaces (.leaf part.label) part := by
  cases derives with
  | leaf allowed => exact .terminal allowed
  | node rule grown =>
    exact .nonTerminal ((grammar.isNonTerminal_iff _).mpr ⟨_, rule, rfl⟩) (.node rule grown)

theorem replaces_of_grafted {tree grown : Tree} {parts : List Tree}
    (grafted : tree.Grafted parts grown) (derives : ∀ part ∈ parts, grammar.Derives part) :
    grammar.Replaces tree grown := by
  cases grafted with
  | leaf => exact (derives grown (List.mem_singleton_self grown)).replaces
  | node inner forest => exact .inner inner forest.length_eq

theorem completes_of_grafted {tree done : Tree} {parts : List Tree}
    (grafted : tree.Grafted parts done) (derives : ∀ part ∈ parts, grammar.Derives part) :
    grammar.Completes tree done := by
  have kept {address : Address} {node : Tree} (found : tree.nodeAt? address = some node) :
      ∃ node', done.nodeAt? address = some node' ∧ grammar.Replaces node node' := by
    obtain ⟨node', own, inside, rest, among⟩ := grafted.exists_nodeAt? found
    exact ⟨node', inside, replaces_of_grafted rest fun part member => derives part (among member)⟩
  refine ⟨kept, ?_⟩
  intro address node' found
  rcases grafted.nodeAt?_or_below found with inside | ⟨above, below, symbol, rfl, leaf⟩
  · exact .inl inside
  · obtain ⟨part, place, replaced⟩ := kept leaf
    rw [Tree.nodeAt?_append, place, Option.bind_some] at found
    cases replaced with
    | inner inner => exact absurd rfl inner
    | terminal terminal =>
      cases below with
      | nil => exact .inl ⟨.leaf symbol, by simpa using leaf⟩
      | cons index below => simp [Tree.leaf, Tree.nodeAt?] at found
    | nonTerminal nonTerminal => exact .inr ⟨above, below, _, rfl, leaf, nonTerminal⟩

theorem Extends.completes {tree done : Tree} (extended : grammar.Extends tree done)
    (terminal : ∀ token ∈ done.yield, grammar.isTerminal token = true) :
    grammar.Completes tree done := by
  obtain ⟨parts, grafted, begins⟩ := extended
  refine completes_of_grafted grafted fun part member => (begins part member).refine ?_
  intro token found
  apply terminal token
  rw [Tree.yield_eq_tokens, grafted.tokens_eq.2, Tree.mem_forestTokens]
  exact ⟨part, member, found⟩

end Grammar

namespace Generator

variable {σ ω : Type} {generator : Generator} {setting : Setting σ ω} {patience : Nat}
variable {tree done : Tree} {chooser : σ} {seen : ω}

/-- Where a run finishes, derivations stand in place of the leaves it started with, and end at terminals. -/
theorem extends_of_finished
    (finished : (generator.complete setting patience tree chooser seen).ending = .finished done) :
    setting.grammar.Extends tree done ∧
      ∀ token ∈ done.yield, setting.grammar.isTerminal token = true := by
  obtain ⟨last, ran, rfl⟩ := complete_finished finished
  have initial := Frontier.initial setting.grammar tree (generator.maxSteps.getD patience) chooser seen
  obtain ⟨final, _, _, reaches, frontier, halt⟩ := initial.exists_halt
  rw [ran] at halt
  cases halt with
  | finished => exact ⟨initial.extension reaches, frontier.tokens_terminal⟩

theorem complete_of_terminal (generator : Generator) (setting : Setting σ ω) (patience : Nat)
    (chooser : σ) (seen : ω)
    (terminal : ∀ token ∈ tree.yield, setting.grammar.isTerminal token = true) :
    generator.complete setting patience tree chooser seen = ⟨.finished tree, 0, chooser, seen⟩ := by
  let start : State σ ω := .initial tree (generator.maxSteps.getD patience) chooser seen
  have frontier : Frontier setting.grammar start [] (tree.leaves ++ []) :=
    (List.append_nil tree.leaves).symm ▸ Frontier.initial _ _ _ _ _
  have passed := frontier.reaches_pass tree.leaves fun leaf member =>
    terminal leaf.2 (Tree.yield_eq_leaves tree ▸ List.mem_map_of_mem member)
  have ran : run setting start = ⟨none, { start with pending := [] }⟩ := by
    rw [passed.run_eq]
    exact run_of_finished (advance_nil rfl)
  rw [complete, ran]
  rfl

/-- Completing a tree changes nothing but its non-terminal leaves, and they become complete derivations.
When it is complete, completing it again, under whatever limit and with whatever chooser, leaves it as it
is, and the chooser too, even if that keeps a record of everything it is asked. -/
theorem complete_completes
    (finished : (generator.complete setting patience tree chooser seen).ending = .finished done) :
    setting.grammar.Completes tree done ∧
      ∀ {σ' ω' : Type} (generator' : Generator) (choose' : Chooser σ') (watch' : Watcher ω')
        (patience' : Nat) (chooser' : σ') (seen' : ω'),
        generator'.complete ⟨setting.grammar, choose', watch'⟩ patience' done chooser' seen' =
          ⟨.finished done, 0, chooser', seen'⟩ := by
  obtain ⟨extended, terminal⟩ := extends_of_finished finished
  refine ⟨extended.completes terminal, ?_⟩
  intro σ' ω' generator' choose' watch' patience' chooser' seen'
  exact generator'.complete_of_terminal _ patience' chooser' seen' terminal

theorem complete_completes_names :
    let tree : Tree := .node "?" [.leaf "N", .leaf "&", .node "!" [.leaf "N"]]
    let done : Tree := .node "?" [.pair, .leaf "&", .node "!" [.node "N" [.leaf "x"]]]
    ((Generator.mk (some 4)).complete ⟨.names, Script.choose, fun _ _ => ()⟩ 0 tree
      (.ofList [1, 0, 0, 0]) ()).ending = .finished done ∧ Grammar.names.Completes tree done ∧
      (Generator.mk (some 0)).complete ⟨.names, recorded Script.choose, fun _ _ => ()⟩ 0 done
        ⟨.first, []⟩ () = ⟨.finished done, 0, ⟨.first, []⟩, ()⟩ := by
  intro tree done
  have finished : ((Generator.mk (some 4)).complete ⟨.names, Script.choose, fun _ _ => ()⟩ 0 tree
      (.ofList [1, 0, 0, 0]) ()).ending = .finished done := by cbv
  obtain ⟨completes, again⟩ := complete_completes finished
  exact ⟨finished, completes, again ⟨some 0⟩ (recorded Script.choose) _ 0 ⟨.first, []⟩ ()⟩

end Generator

end SentenceSampler
