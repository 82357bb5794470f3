import SentenceSampler.Proofs.Expansion.Course
import SentenceSampler.Proofs.Tree.Order

/-!
The addresses that a run takes from its pending ones. Main statement: they come in lexicographic order, since
whatever a move puts in place of an address stands behind it and before all that is pending.
-/
namespace SentenceSampler.Expansion

variable {σ ω : Type} {setting : Setting σ ω} {start state next last : State σ ω}
variable {done later : List (Address × String)} {address : Address} {pending : List Address}

/-- The states of a run before each of its moves; the last one is that at which it ends. -/
def heads (setting : Setting σ ω) (state : State σ ω) : List (State σ ω) :=
  match _step : advance setting state with
  | .finished _ => [state]
  | .stopped _ _ => [state]
  | .moved next => state :: heads setting next
termination_by (state.allowance, state.pending.length)
decreasing_by
  rcases advance_decreases _step with fewer | ⟨same, fewer⟩
  · exact Prod.Lex.left _ _ fewer
  · rw [same]
    exact Prod.Lex.right _ fewer

/-- The addresses that a run takes, in order: the first pending one before each move, and the one at which
it stops. -/
def taken (setting : Setting σ ω) (state : State σ ω) : List Address :=
  (heads setting state).filterMap fun head => head.pending.head?

/-! What a move takes and puts -/

/-- A move takes an address and puts those of fresh children in its place, or nothing. -/
inductive Takes (setting : Setting σ ω) (state : State σ ω) (address : Address)
    (pending : List Address) : State σ ω → Prop where
  | passed : Takes setting state address pending { state with pending }
  | expanded (rule : Rule) (chooser : σ) :
      Takes setting state address pending (state.apply setting.watch address pending rule chooser)

theorem exists_takes (moved : advance setting state = .moved next) :
    ∃ address pending, state.pending = address :: pending ∧ Takes setting state address pending next := by
  cases first : state.pending with
  | nil =>
    rw [advance_nil first] at moved
    cases moved
  | cons address pending =>
    cases found : state.tree.nodeAt? address with
    | none => simp [advance, first, found] at moved
    | some node =>
      have turn : Turn setting state address pending node.label (advance setting state) :=
        advance_turn first found
      rw [moved] at turn
      cases turn with
      | passed terminal => exact ⟨address, pending, rfl, .passed⟩
      | expanded nonTerminal allowed asked chosen => exact ⟨address, pending, rfl, .expanded _ _⟩

theorem Takes.old_or_child {other : Address} (takes : Takes setting state address pending next)
    (member : other ∈ next.pending) : other ∈ pending ∨ ∃ index, other = childAddress address index := by
  cases takes with
  | passed => exact .inl member
  | expanded rule chooser =>
    rcases List.mem_append.mp member with child | old
    · obtain ⟨index, -, rfl⟩ := List.mem_map.mp child
      exact .inr ⟨index, rfl⟩
    · exact .inl old

theorem Takes.before (takes : Takes setting state address pending next)
    (behind : ∀ other ∈ pending, address.Before other) :
    ∀ other ∈ next.pending, address.Before other := by
  intro other member
  rcases takes.old_or_child member with old | ⟨index, rfl⟩
  · exact behind other old
  · exact Address.before_child address index

theorem Reaches.before {bound : Address} (reaches : Reaches setting start state)
    (behind : ∀ other ∈ start.pending, bound.Before other) :
    ∀ other ∈ state.pending, bound.Before other := by
  induction reaches with
  | start => exact behind
  | move _ moved ih =>
    obtain ⟨address, pending, first, takes⟩ := exists_takes moved
    rw [first] at ih
    obtain ⟨own, others⟩ := List.forall_mem_cons.mp ih
    intro other member
    rcases takes.old_or_child member with old | ⟨index, rfl⟩
    · exact others other old
    · exact own.trans (Address.before_child address index)

/-! The states before each move -/

/-- A run goes on from one state and comes by another one later. -/
def Leads (setting : Setting σ ω) (earlier later : State σ ω) : Prop :=
  ∃ next, advance setting earlier = .moved next ∧ Reaches setting next later

theorem reaches_of_mem_heads (member : state ∈ heads setting start) : Reaches setting start state := by
  fun_induction heads setting start with
  | case1 start last move =>
    rw [List.mem_singleton.mp member]
    exact .start
  | case2 start cause last move =>
    rw [List.mem_singleton.mp member]
    exact .start
  | case3 start next move ih =>
    rcases List.mem_cons.mp member with rfl | member
    · exact .start
    · exact (Reaches.start.move move).trans (ih member)

theorem heads_of_moved (moved : advance setting state = .moved next) :
    heads setting state = state :: heads setting next := by
  rw [heads]
  split <;> simp_all

theorem start_mem_heads (setting : Setting σ ω) (start : State σ ω) : start ∈ heads setting start := by
  rw [heads]
  split <;> simp

theorem mem_heads_of_moved (member : state ∈ heads setting start) (moved : advance setting state = .moved next) :
    next ∈ heads setting start := by
  fun_induction heads setting start with
  | case1 start last move =>
    rw [List.mem_singleton.mp member, move] at moved
    cases moved
  | case2 start cause last move =>
    rw [List.mem_singleton.mp member, move] at moved
    cases moved
  | case3 start after move ih =>
    rcases List.mem_cons.mp member with rfl | member
    · cases move.symm.trans moved
      exact List.mem_cons_of_mem _ (start_mem_heads setting next)
    · exact List.mem_cons_of_mem _ (ih member)

/-- A run comes by a state exactly if it makes a move from it or ends there. -/
theorem mem_heads_iff : state ∈ heads setting start ↔ Reaches setting start state := by
  refine ⟨reaches_of_mem_heads, fun reaches => ?_⟩
  induction reaches with
  | start => exact start_mem_heads setting start
  | move _ moved ih => exact mem_heads_of_moved ih moved

theorem heads_pairwise (setting : Setting σ ω) (start : State σ ω) :
    (heads setting start).Pairwise (Leads setting) := by
  fun_induction heads setting start with
  | case1 start last move => exact List.pairwise_singleton _ _
  | case2 start cause last move => exact List.pairwise_singleton _ _
  | case3 start next move ih =>
    refine .cons ?_ ih
    intro head member
    exact ⟨next, move, reaches_of_mem_heads member⟩

theorem taken_of_moved (first : state.pending = address :: pending)
    (moved : advance setting state = .moved next) :
    taken setting state = address :: taken setting next := by
  simp [taken, heads_of_moved moved, first]

theorem taken_of_finished (move : advance setting state = .finished last) (none : state.pending = []) :
    taken setting state = [] := by
  have states : heads setting state = [state] := by
    rw [heads]
    split <;> simp_all
  simp [taken, states, none]

/-! What a run takes -/

theorem Frontier.of_mem_heads (frontier : Frontier setting.grammar start done later)
    (member : state ∈ heads setting start) : ∃ done later, Frontier setting.grammar state done later :=
  frontier.reaches (mem_heads_iff.mp member)

theorem Frontier.ascending {grammar : Grammar} (frontier : Frontier grammar state done later) :
    state.pending.Pairwise Address.Before := by
  have whole := Tree.leafAddresses_ascending state.tree
  rw [Tree.leafAddresses_eq_leaves, frontier.leaves, List.map_append, ← frontier.pending] at whole
  exact (List.pairwise_append.mp whole).2.1

/-- What is taken first stands before all that is pending later. -/
theorem Frontier.before_of_leads (frontier : Frontier setting.grammar state done later)
    {following : State σ ω} (first : state.pending.head? = some address)
    (leads : Leads setting state following) : ∀ other ∈ following.pending, address.Before other := by
  obtain ⟨next, moved, reaches⟩ := leads
  obtain ⟨own, pending, split, takes⟩ := exists_takes moved
  obtain rfl : own = address := by simpa [split] using first
  have ascending := frontier.ascending
  rw [split] at ascending
  exact reaches.before (takes.before (List.pairwise_cons.mp ascending).1)

/-- The addresses that a run takes are in lexicographic order. -/
theorem Frontier.taken_ascending (frontier : Frontier setting.grammar start done later) :
    (taken setting start).Pairwise Address.Before := by
  rw [taken, List.pairwise_filterMap]
  refine (heads_pairwise setting start).imp_of_mem ?_
  intro earlier following member _ leads address first other second
  obtain ⟨_, _, before⟩ := frontier.of_mem_heads member
  exact before.before_of_leads first leads other (List.mem_of_mem_head? second)

end SentenceSampler.Expansion
