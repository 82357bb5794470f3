import SentenceSampler.Proofs.Expansion.Move
import SentenceSampler.Proofs.Tree.Order

/-!
The invariant of the pending addresses. Main statements: at every moment of a run they are the
addresses of the last leaves of the tree, the leaves before them carry terminals, and the next
expansion fills the hole at the first of them.
-/
namespace SentenceSampler.Expansion

variable {σ ω : Type} {setting : Setting σ ω} {state : State σ ω} {grammar : Grammar}
variable {done later : List (Address × String)} {address : Address} {symbol : Symbol}

/-- The leaves of the tree are those that are done, all of them terminals, and those that are still
to be looked at. -/
structure Frontier (grammar : Grammar) (state : State σ ω)
    (done later : List (Address × String)) : Prop where
  leaves : state.tree.leaves = done ++ later
  pending : state.pending = later.map Prod.fst
  terminal : ∀ leaf ∈ done, grammar.isTerminal leaf.2 = true

theorem Frontier.initial (grammar : Grammar) (tree : Tree) (allowance : Nat) (chooser : σ)
    (seen : ω) : Frontier grammar (State.initial tree allowance chooser seen) [] tree.leaves where
  leaves := rfl
  pending := Tree.leafAddresses_eq_leaves tree
  terminal := by simp

theorem Frontier.yield (frontier : Frontier grammar state done later) :
    state.tree.yield = done.map Prod.snd ++ later.map Prod.snd := by
  rw [Tree.yield_eq_leaves, frontier.leaves, List.map_append]

theorem Frontier.found (frontier : Frontier grammar state done later) {leaf : Address × String}
    (among : leaf ∈ done ++ later) : state.tree.nodeAt? leaf.1 = some (.leaf leaf.2) := by
  rw [← frontier.leaves] at among
  exact Tree.mem_leaves_iff.mp among

theorem Frontier.hole (frontier : Frontier grammar state done ((address, symbol) :: later)) :
    ∃ context : Context, state.tree = context.plug (.leaf symbol) ∧ context.address = address ∧
      context.leavesBefore = done ∧ context.leavesAfter = later := by
  obtain ⟨context, filled, place, before, after⟩ := Context.exists_of_leaves frontier.leaves
  exact ⟨context, filled.symm, place, before, after⟩

theorem apply_tree {context : Context} (filled : state.tree = context.plug (.leaf symbol))
    (watch : Watcher ω) (pending : List Address) (rule : Rule) (chooser : σ) :
    (state.apply watch context.address pending rule chooser).tree =
      context.plug (.node symbol (rule.rhs.map .leaf)) := by
  simp only [State.apply, filled]
  exact context.expandAt_plug (rule.rhs.map .leaf) symbol []

theorem Frontier.pass (frontier : Frontier grammar state done ((address, symbol) :: later))
    (terminal : grammar.isTerminal symbol = true) :
    Frontier grammar { state with pending := later.map Prod.fst }
      (done ++ [(address, symbol)]) later where
  leaves := by simpa using frontier.leaves
  pending := rfl
  terminal := by
    intro leaf member
    rcases List.mem_append.mp member with earlier | own
    · exact frontier.terminal leaf earlier
    · rw [List.mem_singleton.mp own]
      exact terminal

theorem Frontier.expand (frontier : Frontier grammar state done ((address, symbol) :: later))
    {rule : Rule} (member : rule ∈ grammar.rules) (watch : Watcher ω) (chooser : σ) :
    Frontier grammar (state.apply watch address (later.map Prod.fst) rule chooser) done
      (Tree.forestLeavesAt address 0 (rule.rhs.map .leaf) ++ later) where
  leaves := by
    obtain ⟨context, filled, rfl, rfl, rfl⟩ := frontier.hole
    have fresh : rule.rhs.map Tree.leaf ≠ [] := by simpa using grammar.rhs_ne_nil rule member
    rw [apply_tree filled, Context.leaves_plug, Tree.leavesAt_node_of_ne_nil fresh]
    simp
  pending := by
    simp [State.apply, childAddresses, Tree.forestLeavesAt_map_leaf_fst, List.range_eq_range']
  terminal := frontier.terminal

/-- What the next move can be, as it depends on the first leaf that is to be looked at. -/
theorem Frontier.turn (setting : Setting σ ω)
    (frontier : Frontier grammar state done ((address, symbol) :: later)) :
    Turn setting state address (later.map Prod.fst) symbol (advance setting state) := by
  have found : state.tree.nodeAt? address = some (.leaf symbol) :=
    frontier.found (List.mem_append_right done List.mem_cons_self)
  exact advance_turn frontier.pending found

theorem Frontier.advance_eq {setting : Setting σ ω} {move : Move σ ω}
    (frontier : Frontier grammar state done ((address, symbol) :: later))
    (turn : Turn setting state address (later.map Prod.fst) symbol move) :
    advance setting state = move := by
  have found : state.tree.nodeAt? address = some (.leaf symbol) :=
    frontier.found (List.mem_append_right done List.mem_cons_self)
  exact Turn.advance_eq turn frontier.pending found

/-- A run finishes exactly where no leaf is left to be looked at. -/
theorem Frontier.finished {last : State σ ω} (frontier : Frontier grammar state done later)
    (move : advance setting state = .finished last) : later = [] ∧ last = state := by
  rcases later with _ | ⟨⟨address, symbol⟩, later⟩
  · rw [advance_nil frontier.pending] at move
    cases move
    exact ⟨rfl, rfl⟩
  · have turn := frontier.turn setting
    rw [move] at turn
    cases turn

end SentenceSampler.Expansion
