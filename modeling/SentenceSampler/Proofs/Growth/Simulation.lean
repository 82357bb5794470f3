import SentenceSampler.Proofs.Expansion.Frontier
import SentenceSampler.Proofs.Growth

/-!
The expansion at addresses and the growth by recursion agree. Main statement: from any place of a tree
on, a run goes on as the part at that place grows.
-/
namespace SentenceSampler

/-- Rules with the numbers that follow a given one. -/
def numbered (steps : Nat) : List Rule → List (Nat × Rule)
  | [] => []
  | rule :: rules => (steps + 1, rule) :: numbered (steps + 1) rules

theorem numbered_append (steps : Nat) (first second : List Rule) :
    numbered steps (first ++ second) =
      numbered steps first ++ numbered (steps + first.length) second := by
  induction first generalizing steps with
  | nil => rfl
  | cons rule rules ih =>
    have shifted : steps + 1 + rules.length = steps + (rules.length + 1) := by omega
    simp [numbered, ih, shifted]

/-- The watcher that keeps the number and the rule of every report, in order. -/
def Watcher.rules : Watcher (List (Nat × Rule)) :=
  fun report earlier => earlier ++ [(report.step, report.rule)]

namespace Expansion

variable {σ α : Type} {grammar : Grammar} {choose : Chooser σ}

/-- A state after a growth, with the tree and the pending addresses it leads to. -/
def State.after (state : State σ (List (Nat × Rule))) (growth : Growth σ α) (tree : Tree)
    (pending : List Address) : State σ (List (Nat × Rule)) where
  tree
  pending
  steps := state.steps + growth.applied.length
  allowance := state.allowance - growth.applied.length
  chooser := growth.chooser
  seen := state.seen ++ numbered state.steps growth.applied

/-- From a state, the run goes on as from the one in which the part has grown, or it stops for the
reason that the part has not. -/
inductive Mirrors (grammar : Grammar) (choose : Chooser σ) (state : State σ (List (Nat × Rule)))
    (growth : Growth σ α) (place : α → Tree) (pending : List Address) : Prop where
  | grown {part : α} (result : growth.result = .ok part)
      (goes : run ⟨grammar, choose, .rules⟩ state =
        run ⟨grammar, choose, .rules⟩ (state.after growth (place part) pending))
  | stopped {stop : Stop} {tree : Tree} {rest : List Address} (result : growth.result = .error stop)
      (ends : run ⟨grammar, choose, .rules⟩ state = ⟨some stop, state.after growth tree rest⟩)

variable {state : State σ (List (Nat × Rule))} {pending : List Address}

theorem after_of_nil {growth : Growth σ α} (still : growth.applied = []) :
    state.after growth state.tree pending =
      { state with pending, chooser := growth.chooser } := by
  simp [State.after, still, numbered]

/-- A part that does not grow for want of a rule or of allowance stops the run at once. -/
theorem Mirrors.halt {growth : Growth σ α} {place : α → Tree} {stop : Stop}
    (result : growth.result = .error stop) (still : growth.applied = [])
    (move : advance ⟨grammar, choose, .rules⟩ state =
      .stopped stop { state with chooser := growth.chooser }) :
    Mirrors grammar choose state growth place pending := by
  have ends : run ⟨grammar, choose, .rules⟩ state =
      ⟨some stop, state.after growth state.tree state.pending⟩ := by
    rw [run_of_stopped move, after_of_nil still]
  exact .stopped result ends

theorem Mirrors.map {β : Type} {growth : Growth σ α} {place : β → Tree} {change : α → β}
    (grows : Mirrors grammar choose state growth (fun part => place (change part)) pending) :
    Mirrors grammar choose state (growth.map change) place pending := by
  cases grows with
  | grown result goes => exact .grown (by rw [Growth.map, result]; rfl) goes
  | stopped result ends => exact .stopped (by rw [Growth.map, result]; rfl) ends

/-- The children of an expanded leaf grow in its place. -/
theorem Mirrors.expand {address : Address} {rule : Rule} {chooser : σ} {place : Tree → Tree}
    {children : Growth σ (List Tree)}
    (moved : advance ⟨grammar, choose, .rules⟩ state =
      .moved (state.apply .rules address pending rule chooser))
    (grows : Mirrors grammar choose (state.apply .rules address pending rule chooser) children
      (fun grown => place (.node rule.lhs grown)) pending) :
    Mirrors grammar choose state
      ⟨children.result.map (.node rule.lhs), children.chooser, rule :: children.applied⟩
      place pending := by
  have same (tree : Tree) (rest : List Address) :
      (state.apply .rules address pending rule chooser).after children tree rest =
        state.after (⟨children.result.map (.node rule.lhs), children.chooser,
          rule :: children.applied⟩ : Growth σ Tree) tree rest := by
    have steps : state.steps + 1 + children.applied.length =
      state.steps + (children.applied.length + 1) := by omega
    have allowance : state.allowance - 1 - children.applied.length =
      state.allowance - (children.applied.length + 1) := by omega
    simp [State.after, State.apply, Watcher.rules, numbered, steps, allowance]
  cases grows with
  | grown result goes =>
    rw [same, ← run_of_moved moved] at goes
    exact .grown (by rw [result]; rfl) goes
  | stopped result ends =>
    rw [same, ← run_of_moved moved] at ends
    exact .stopped (by rw [result]; rfl) ends

/-- What grows after a tree that has grown, grows from the state that this one leaves. -/
theorem Mirrors.cons {first : Growth σ Tree} {tree : Tree} {next : List Address}
    {later : Growth σ (List Tree)} {place : List Tree → Tree} {placed : Tree}
    (goes : run ⟨grammar, choose, .rules⟩ state =
      run ⟨grammar, choose, .rules⟩ (state.after first placed next))
    (grows : Mirrors grammar choose (state.after first placed next) later
      (fun grown => place (tree :: grown)) pending) :
    Mirrors grammar choose state
      ⟨later.result.map (tree :: ·), later.chooser, first.applied ++ later.applied⟩
      place pending := by
  have same (whole : Tree) (rest : List Address) :
      (state.after first placed next).after later whole rest =
        state.after (⟨later.result.map (tree :: ·), later.chooser,
          first.applied ++ later.applied⟩ : Growth σ (List Tree)) whole rest := by
    simp [State.after, numbered_append, Nat.add_assoc, Nat.sub_sub]
  cases grows with
  | grown result goes' =>
    rw [same, ← goes] at goes'
    exact .grown (by rw [result]; rfl) goes'
  | stopped result ends =>
    rw [same, ← goes] at ends
    exact .stopped (by rw [result]; rfl) ends

/-- A leaf that is the next to be looked at grows as its recursion says, if the children that an
expansion gives it do. -/
theorem mirrors_leaf {context : Context} {label : Symbol}
    (filled : state.tree = context.plug (.node label []))
    (first : state.pending = context.address :: pending)
    (children : ∀ {rule : Rule} {chooser : σ}, 0 < state.allowance → rule.lhs = label →
      Mirrors grammar choose (state.apply .rules context.address pending rule chooser)
        (Growth.ofForest grammar choose (state.allowance - 1) chooser (rule.rhs.map .leaf))
        (fun grown => context.plug (.node label grown)) pending) :
    Mirrors grammar choose state
      (Growth.ofTree grammar choose state.allowance state.chooser (.node label []))
      context.plug pending := by
  have found : state.tree.nodeAt? context.address = some (.node label []) :=
    Context.nodeAt?_of_filled filled
  have turn : Turn ⟨grammar, choose, .rules⟩ state context.address pending label
    (advance ⟨grammar, choose, .rules⟩ state) := advance_turn first found
  generalize move : advance ⟨grammar, choose, .rules⟩ state = next at turn
  cases turn with
  | passed terminal =>
    rw [Growth.ofTree_terminal terminal]
    refine .grown rfl ?_
    rw [run_of_moved move, Tree.leaf, ← filled, after_of_nil rfl]
  | unknown notTerminal notNonTerminal =>
    rw [Growth.ofTree_unknown notTerminal notNonTerminal]
    exact .halt rfl rfl move
  | outOfAllowance nonTerminal spent =>
    rw [spent, Growth.ofTree_outOfBudget nonTerminal]
    exact .halt rfl rfl move
  | declined nonTerminal allowed asked unusable =>
    rw [Growth.ofTree_declined nonTerminal allowed asked unusable]
    exact .halt rfl rfl move
  | expanded nonTerminal allowed asked chosen =>
    obtain ⟨_, rfl⟩ := Grammar.mem_of_rulesOf chosen
    rw [Growth.ofTree_expanded nonTerminal allowed asked chosen]
    exact .expand move (children allowed rfl)

mutual

/-- Where the leaves of a part are the next to be looked at, the run mirrors the growth of that part,
whatever is pending behind it. -/
theorem mirrors_ofTree (context : Context) {state : State σ (List (Nat × Rule))}
    (pending : List Address) : (tree : Tree) → state.tree = context.plug tree →
    state.pending = (Tree.leavesAt context.address tree).map Prod.fst ++ pending →
    Mirrors grammar choose state
      (Growth.ofTree grammar choose state.allowance state.chooser tree) context.plug pending
  | .node label [], filled, first => by
    apply mirrors_leaf filled (by simpa [Tree.leavesAt] using first)
    intro rule chooser allowed same
    subst same
    refine mirrors_ofForest context rule.lhs [] pending (rule.rhs.map .leaf) ?_ ?_
    · rw [apply_tree filled]
      simp
    · simp [State.apply, childAddresses, Tree.forestLeavesAt_map_leaf_fst, List.range_eq_range']
  | .node label (child :: siblings), filled, first => by
    rw [Growth.ofTree]
    apply Mirrors.map
    exact mirrors_ofForest context label [] pending (child :: siblings) filled
      (by simpa [Tree.leavesAt] using first)
termination_by tree => (state.allowance, 2 * tree.nodeCount)
decreasing_by
  · exact .left _ _ (by simp only [State.apply]; omega)
  · exact .right _ (by simp only [Tree.nodeCount]; omega)

theorem mirrors_ofForest (outer : Context) (label : Symbol) (before : List Tree)
    {state : State σ (List (Nat × Rule))} (pending : List Address) : (trees : List Tree) →
    state.tree = outer.plug (.node label (before ++ trees)) →
    state.pending =
      (Tree.forestLeavesAt outer.address before.length trees).map Prod.fst ++ pending →
    Mirrors grammar choose state
      (Growth.ofForest grammar choose state.allowance state.chooser trees)
      (fun grown => outer.plug (.node label (before ++ grown))) pending
  | [], filled, first => by
    have same : state.pending = pending := by simpa [Tree.forestLeavesAt] using first
    rw [Growth.ofForest]
    refine .grown rfl ?_
    rw [← filled, after_of_nil rfl, ← same]
  | tree :: trees, filled, first => by
    let siblings := (Tree.forestLeavesAt outer.address (before.length + 1) trees).map Prod.fst
    have own := mirrors_ofTree (.child outer label before trees) (siblings ++ pending) tree filled
      (by simpa [Tree.forestLeavesAt, siblings, Context.address] using first)
    cases own with
    | stopped result ends =>
      rw [Growth.ofForest_cons_error result]
      exact .stopped rfl ends
    | @grown part result goes =>
      rw [Growth.ofForest_cons_ok result]
      refine .cons goes ?_
      let next := state.after (Growth.ofTree grammar choose state.allowance state.chooser tree)
        (outer.plug (.node label (before ++ part :: trees))) (siblings ++ pending)
      have later : Mirrors grammar choose next
          (Growth.ofForest grammar choose next.allowance next.chooser trees)
          (fun grown => outer.plug (.node label (before ++ [part] ++ grown))) pending :=
        mirrors_ofForest outer label (before ++ [part]) pending trees
          (by simp [next, State.after]) (by simp [next, State.after, siblings])
      simp only [List.append_assoc, List.singleton_append] at later
      exact later
termination_by trees => (state.allowance, 2 * Tree.forestCount trees + 1)
decreasing_by
  · exact .right _ (by simp only [Tree.forestCount]; omega)
  · have positive := tree.nodeCount_pos
    exact Growth.lex_of_le (by simp only [State.after]; omega)
      (by simp only [Tree.forestCount]; omega)

end

/-- A whole run is the growth of its tree. -/
theorem run_initial (grammar : Grammar) (choose : Chooser σ) (tree : Tree) (allowance : Nat)
    (chooser : σ) :
    let growth := Growth.ofTree grammar choose allowance chooser tree
    ∃ last pending, run ⟨grammar, choose, .rules⟩ (.initial tree allowance chooser []) =
      ⟨growth.stop, (State.initial tree allowance chooser []).after growth last pending⟩ ∧
      ∀ done, growth.result = .ok done → last = done := by
  intro growth
  let start : State σ (List (Nat × Rule)) := .initial tree allowance chooser []
  have mirrors : Mirrors grammar choose start growth Context.root.plug [] :=
    mirrors_ofTree .root [] tree rfl
      (by simp [start, State.initial, Tree.leafAddresses_eq_leaves, Tree.leaves, Context.address])
  cases mirrors with
  | @grown done result goes =>
    refine ⟨done, [], ?_, ?_⟩
    · rw [goes, run_of_finished (advance_nil rfl), growth.stop_of_ok result]
      rfl
    · intro other same
      rw [result] at same
      exact Except.ok.inj same
  | @stopped stop last pending result ends =>
    refine ⟨last, pending, ?_, ?_⟩
    · rw [ends, growth.stop_of_error result]
    · intro done same
      rw [result] at same
      cases same

end Expansion

end SentenceSampler
