import SentenceSampler.Proofs.Expansion.Frontier

/-!
The course of a run from a frontier. Main statements: what all progress keeps holds at every state that
the run comes by, and the run ends at one of them, in a way that the leaves still to be looked at tell.
-/
namespace SentenceSampler.Expansion

variable {σ ω : Type} {setting : Setting σ ω} {start state next : State σ ω}
variable {done later : List (Address × String)}

/-- What a move changes: the list of what is to be looked at, or a leaf that is expanded by a rule of
the chooser's choice, with terminals only to its left. -/
inductive Progress (setting : Setting σ ω) (state : State σ ω) : State σ ω → Prop where
  | passed (pending : List Address) : Progress setting state { state with pending }
  | expanded {context : Context} {rule : Rule} {index : Nat} {chooser : σ} (pending : List Address)
      (filled : state.tree = context.plug (.leaf rule.lhs))
      (terminal : ∀ leaf ∈ context.leavesBefore, setting.grammar.isTerminal leaf.2 = true)
      (allowed : 0 < state.allowance)
      (asked : setting.choose (Grammar.rulesOf setting.grammar.rules rule.lhs).length
        state.chooser = (some index, chooser))
      (chosen : (Grammar.rulesOf setting.grammar.rules rule.lhs)[index]? = some rule) :
      Progress setting state (state.apply setting.watch context.address pending rule chooser)

theorem Progress.total (progress : Progress setting state next) :
    next.steps + next.allowance = state.steps + state.allowance := by
  cases progress with
  | passed pending => rfl
  | expanded pending filled terminal allowed asked chosen =>
    simp only [State.apply]
    omega

/-- A move from a frontier is progress, and leads to a frontier. -/
theorem Frontier.progress (frontier : Frontier setting.grammar state done later)
    (moved : advance setting state = .moved next) :
    Progress setting state next ∧ ∃ done later, Frontier setting.grammar next done later := by
  rcases later with _ | ⟨⟨address, symbol⟩, later⟩
  · rw [advance_nil frontier.pending] at moved
    cases moved
  · have turn := frontier.turn setting
    rw [moved] at turn
    cases turn with
    | passed terminal => exact ⟨.passed _, _, _, frontier.pass terminal⟩
    | expanded nonTerminal allowed asked chosen =>
      obtain ⟨member, rfl⟩ := Grammar.mem_of_rulesOf chosen
      obtain ⟨context, filled, rfl, rfl, -⟩ := frontier.hole
      exact ⟨.expanded _ filled frontier.terminal allowed asked chosen, _, _,
        frontier.expand member _ _⟩

theorem Frontier.reaches (frontier : Frontier setting.grammar start done later)
    (reaches : Reaches setting start state) :
    ∃ done later, Frontier setting.grammar state done later := by
  induction reaches with
  | start => exact ⟨_, _, frontier⟩
  | move _ moved ih =>
    obtain ⟨done, later, frontier⟩ := ih
    exact (frontier.progress moved).2

/-- What all progress keeps holds wherever a run comes by. -/
theorem Frontier.invariant {holds : State σ ω → Prop}
    (frontier : Frontier setting.grammar start done later)
    (kept : ∀ {state next}, Progress setting state next → holds state → holds next)
    (first : holds start) (reaches : Reaches setting start state) : holds state := by
  induction reaches with
  | start => exact first
  | move earlier moved ih =>
    obtain ⟨done, later, frontier⟩ := frontier.reaches earlier
    exact kept (frontier.progress moved).1 ih

theorem Frontier.steps_le (frontier : Frontier setting.grammar start done later)
    (reaches : Reaches setting start state) : start.steps ≤ state.steps := by
  have kept {state next : State σ ω} (progress : Progress setting state next)
      (least : start.steps ≤ state.steps) : start.steps ≤ next.steps := by
    cases progress with
    | passed pending => exact least
    | expanded => exact Nat.le_succ_of_le least
  exact frontier.invariant kept (Nat.le_refl _) reaches

/-- How a run ends at a state, as the leaves that are still to be looked at tell. -/
inductive Halt (setting : Setting σ ω) (state : State σ ω) :
    List (Address × String) → Outcome σ ω → Prop where
  | finished : Halt setting state [] ⟨none, state⟩
  | unknown {address : Address} {symbol : Symbol} {later : List (Address × String)}
      (notTerminal : setting.grammar.isTerminal symbol = false)
      (notNonTerminal : setting.grammar.isNonTerminal symbol = false) :
      Halt setting state ((address, symbol) :: later)
        ⟨some (.failed (.unknownSymbol symbol)), state⟩
  | outOfAllowance {address : Address} {symbol : Symbol} {later : List (Address × String)}
      (nonTerminal : setting.grammar.isNonTerminal symbol = true) (spent : state.allowance = 0) :
      Halt setting state ((address, symbol) :: later) ⟨some (.outOfAllowance symbol), state⟩
  | declined {address : Address} {symbol : Symbol} {later : List (Address × String)}
      {answer : Option Nat} {chooser : σ}
      (nonTerminal : setting.grammar.isNonTerminal symbol = true) (allowed : 0 < state.allowance)
      (asked : setting.choose (Grammar.rulesOf setting.grammar.rules symbol).length
        state.chooser = (answer, chooser))
      (unusable : ∀ index, answer = some index →
        (Grammar.rulesOf setting.grammar.rules symbol).length ≤ index) :
      Halt setting state ((address, symbol) :: later)
        ⟨some (.failed (.emptyRuleSet symbol)), { state with chooser }⟩

theorem Frontier.halt {outcome : Outcome σ ω} (frontier : Frontier setting.grammar state done later)
    (ending : Ends setting state outcome) : Halt setting state later outcome := by
  rcases later with _ | ⟨⟨address, symbol⟩, later⟩
  · cases ending with
    | finished move =>
      obtain ⟨_, rfl⟩ := frontier.finished move
      exact .finished
    | stopped move =>
      rw [advance_nil frontier.pending] at move
      cases move
  · have turn := frontier.turn setting
    cases ending with
    | finished move =>
      rw [move] at turn
      cases turn
    | stopped move =>
      rw [move] at turn
      cases turn with
      | unknown notTerminal notNonTerminal => exact .unknown notTerminal notNonTerminal
      | outOfAllowance nonTerminal spent => exact .outOfAllowance nonTerminal spent
      | declined nonTerminal allowed asked unusable =>
        exact .declined nonTerminal allowed asked unusable

theorem Frontier.exists_halt (frontier : Frontier setting.grammar start done later) :
    ∃ final done later, Reaches setting start final ∧ Frontier setting.grammar final done later ∧
      Halt setting final later (Expansion.run setting start) := by
  obtain ⟨final, reaches, ending⟩ := exists_reaches_ends setting start
  obtain ⟨done, later, frontier⟩ := frontier.reaches reaches
  exact ⟨final, done, later, reaches, frontier, frontier.halt ending⟩

/-- A run that runs out of its allowance has spent it where the next leaf is a non-terminal. -/
theorem Frontier.exists_spent {symbol : Symbol}
    (frontier : Frontier setting.grammar start done later)
    (exceeded : (Expansion.run setting start).stop = some (.outOfAllowance symbol)) :
    ∃ final done address later, Reaches setting start final ∧
      Frontier setting.grammar final done ((address, symbol) :: later) ∧
      setting.grammar.isNonTerminal symbol = true ∧ final.allowance = 0 ∧
      Expansion.run setting start = ⟨some (.outOfAllowance symbol), final⟩ := by
  obtain ⟨final, done, later, reaches, last, halt⟩ := frontier.exists_halt
  generalize Expansion.run setting start = outcome at exceeded halt
  cases halt with
  | outOfAllowance nonTerminal spent =>
    cases exceeded
    exact ⟨final, done, _, _, reaches, last, nonTerminal, spent, rfl⟩
  | finished => cases exceeded
  | unknown => cases exceeded
  | declined => cases exceeded

/-- A run that starts at a frontier ends at one. A property that every expansion of a leftmost leaf
keeps, and that is not about the pending addresses, holds there if it holds at the start. -/
theorem Frontier.run (setting : Setting σ ω) (holds : State σ ω → Prop)
    (passed : ∀ {state pending}, holds state → holds { state with pending })
    (expanded : ∀ {state : State σ ω} {context : Context} {rule : Rule} {pending chooser},
      state.tree = context.plug (.leaf rule.lhs) → rule ∈ setting.grammar.rules →
      (∀ leaf ∈ context.leavesBefore, setting.grammar.isTerminal leaf.2 = true) →
      holds state → holds (state.apply setting.watch context.address pending rule chooser))
    (frontier : Frontier setting.grammar state done later) (start : holds state) :
    ∃ final done later, Frontier setting.grammar final done later ∧ holds final ∧
      Ends setting final (Expansion.run setting state) := by
  have kept {state next : State σ ω} (progress : Progress setting state next)
      (held : holds state) : holds next := by
    cases progress with
    | passed pending => exact passed held
    | expanded pending filled terminal allowed asked chosen =>
      exact expanded filled (Grammar.mem_of_rulesOf chosen).1 terminal held
  obtain ⟨final, reaches, ending⟩ := exists_reaches_ends setting state
  obtain ⟨done, later, last⟩ := frontier.reaches reaches
  exact ⟨final, done, later, last, frontier.invariant kept start reaches, ending⟩

theorem Halt.last_eq {outcome : Outcome σ ω} (halt : Halt setting state later outcome) :
    outcome.last.tree = state.tree ∧ outcome.last.steps = state.steps ∧
      outcome.last.seen = state.seen := by
  cases halt <;> exact ⟨rfl, rfl, rfl⟩

theorem Halt.not_exceeded {outcome : Outcome σ ω} (halt : Halt setting state later outcome)
    (limit : Nat) (symbol : Symbol) :
    outcome.stop ≠ some (.failed (.stepLimitExceeded limit symbol)) := by
  cases halt <;> simp

theorem Frontier.ends {outcome : Outcome σ ω} (frontier : Frontier setting.grammar state done later)
    (ending : Ends setting state outcome) :
    outcome.last.tree = state.tree ∧ outcome.last.steps = state.steps ∧
      outcome.last.seen = state.seen :=
  (frontier.halt ending).last_eq

end SentenceSampler.Expansion
