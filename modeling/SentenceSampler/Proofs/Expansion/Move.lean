import SentenceSampler.Expansion
import SentenceSampler.Proofs.Grammar

/-!
What one move of an expansion can do, and what this means for a run. Main statements: every move at
a node is one of five, what every move keeps holds where a run comes to its end, and a run goes on from
every state it comes by as if it had started there.
-/
namespace SentenceSampler.Expansion

variable {σ ω : Type} {setting : Setting σ ω} {state next last : State σ ω}

/-- The moves that are possible where the next pending node carries a symbol. -/
inductive Turn (setting : Setting σ ω) (state : State σ ω) (address : Address)
    (pending : List Address) (symbol : Symbol) : Move σ ω → Prop where
  | passed (terminal : setting.grammar.isTerminal symbol = true) :
      Turn setting state address pending symbol (.moved { state with pending })
  | unknown (notTerminal : setting.grammar.isTerminal symbol = false)
      (notNonTerminal : setting.grammar.isNonTerminal symbol = false) :
      Turn setting state address pending symbol (.stopped (.failed (.unknownSymbol symbol)) state)
  | outOfAllowance (nonTerminal : setting.grammar.isNonTerminal symbol = true)
      (spent : state.allowance = 0) :
      Turn setting state address pending symbol (.stopped (.outOfAllowance symbol) state)
  | declined {answer : Option Nat} {chooser : σ}
      (nonTerminal : setting.grammar.isNonTerminal symbol = true)
      (allowed : 0 < state.allowance)
      (asked : setting.choose (Grammar.rulesOf setting.grammar.rules symbol).length
        state.chooser = (answer, chooser))
      (unusable : ∀ index, answer = some index →
        (Grammar.rulesOf setting.grammar.rules symbol).length ≤ index) :
      Turn setting state address pending symbol
        (.stopped (.failed (.emptyRuleSet symbol)) { state with chooser })
  | expanded {index : Nat} {chooser : σ} {rule : Rule}
      (nonTerminal : setting.grammar.isNonTerminal symbol = true)
      (allowed : 0 < state.allowance)
      (asked : setting.choose (Grammar.rulesOf setting.grammar.rules symbol).length
        state.chooser = (some index, chooser))
      (chosen : (Grammar.rulesOf setting.grammar.rules symbol)[index]? = some rule) :
      Turn setting state address pending symbol
        (.moved (state.apply setting.watch address pending rule chooser))

theorem advance_nil (empty : state.pending = []) : advance setting state = .finished state := by
  simp [advance, empty]

theorem advance_turn {address : Address} {pending : List Address} {node : Tree}
    (first : state.pending = address :: pending)
    (found : state.tree.nodeAt? address = some node) :
    Turn setting state address pending node.label (advance setting state) := by
  cases terminal : setting.grammar.isTerminal node.label with
  | true => simpa [advance, first, found, terminal] using Turn.passed terminal
  | false =>
    cases nonTerminal : setting.grammar.isNonTerminal node.label with
    | false =>
      simpa [advance, first, found, terminal, nonTerminal] using
        Turn.unknown terminal nonTerminal
    | true =>
      by_cases spent : state.allowance = 0
      · simpa [advance, first, found, terminal, nonTerminal, spent] using
          Turn.outOfAllowance nonTerminal spent
      · have allowed : 0 < state.allowance := by omega
        have rules := Grammar.rulesFor_of_isNonTerminal nonTerminal
        cases asked : setting.choose (Grammar.rulesOf setting.grammar.rules node.label).length
          state.chooser with
        | mk answer chooser =>
          cases answer with
          | none =>
            simpa [advance, first, found, terminal, nonTerminal, spent, rules, asked] using
              Turn.declined nonTerminal allowed asked (by simp)
          | some index =>
            cases chosen : (Grammar.rulesOf setting.grammar.rules node.label)[index]? with
            | none =>
              have outside := List.getElem?_eq_none_iff.mp chosen
              simpa [advance, first, found, terminal, nonTerminal, spent, rules, asked, chosen] using
                Turn.declined nonTerminal allowed asked (by simpa using outside)
            | some rule =>
              simpa [advance, first, found, terminal, nonTerminal, spent, rules, asked, chosen] using
                Turn.expanded nonTerminal allowed asked chosen

/-- No two moves are possible at once. -/
theorem Turn.advance_eq {address : Address} {pending : List Address} {node : Tree} {move : Move σ ω}
    (turn : Turn setting state address pending node.label move)
    (first : state.pending = address :: pending) (found : state.tree.nodeAt? address = some node) :
    advance setting state = move := by
  cases turn with
  | passed terminal => simp [advance, first, found, terminal]
  | unknown notTerminal notNonTerminal =>
    simp [advance, first, found, notTerminal, notNonTerminal]
  | outOfAllowance nonTerminal spent =>
    have notTerminal := Grammar.not_isTerminal_of_isNonTerminal nonTerminal
    simp [advance, first, found, notTerminal, nonTerminal, spent]
  | @declined answer chooser nonTerminal allowed asked unusable =>
    have notTerminal := Grammar.not_isTerminal_of_isNonTerminal nonTerminal
    have rules := Grammar.rulesFor_of_isNonTerminal nonTerminal
    have left : state.allowance ≠ 0 := by omega
    have none : (answer.bind fun index =>
        (Grammar.rulesOf setting.grammar.rules node.label)[index]?) = none := by
      simpa [Option.bind_eq_none_iff] using unusable
    simp [advance, first, found, notTerminal, nonTerminal, left, rules, asked, none]
  | expanded nonTerminal allowed asked chosen =>
    have notTerminal := Grammar.not_isTerminal_of_isNonTerminal nonTerminal
    have rules := Grammar.rulesFor_of_isNonTerminal nonTerminal
    have left : state.allowance ≠ 0 := by omega
    simp [advance, first, found, notTerminal, nonTerminal, left, rules, asked, chosen]

theorem run_of_finished (finished : advance setting state = .finished last) :
    run setting state = ⟨none, last⟩ := by
  rw [run]
  split <;> simp_all

theorem run_of_stopped {cause : Stop} (stopped : advance setting state = .stopped cause last) :
    run setting state = ⟨some cause, last⟩ := by
  rw [run]
  split <;> simp_all

theorem run_of_moved (moved : advance setting state = .moved next) :
    run setting state = run setting next := by
  rw [run]
  split <;> simp_all

/-- The last move of a run, and the outcome that it leads to. -/
inductive Ends (setting : Setting σ ω) (state : State σ ω) : Outcome σ ω → Prop where
  | finished {last : State σ ω} (move : advance setting state = .finished last) :
      Ends setting state ⟨none, last⟩
  | stopped {cause : Stop} {last : State σ ω} (move : advance setting state = .stopped cause last) :
      Ends setting state ⟨some cause, last⟩

theorem run_invariant {holds : State σ ω → Prop}
    (kept : ∀ {state next}, holds state → advance setting state = .moved next → holds next)
    (start : holds state) : ∃ final, holds final ∧ Ends setting final (run setting state) := by
  fun_induction run setting state with
  | case1 state last move => exact ⟨state, start, .finished move⟩
  | case2 state cause last move => exact ⟨state, start, .stopped move⟩
  | case3 state next move ih => exact ih (kept start move)

/-- The states that a run comes by, from a given one on. -/
inductive Reaches (setting : Setting σ ω) (start : State σ ω) : State σ ω → Prop where
  | start : Reaches setting start start
  | move {state next : State σ ω} (earlier : Reaches setting start state)
      (moved : advance setting state = .moved next) : Reaches setting start next

theorem Reaches.run_eq {start : State σ ω} (reaches : Reaches setting start state) :
    run setting start = run setting state := by
  induction reaches with
  | start => rfl
  | move _ moved ih => rw [ih, run_of_moved moved]

theorem Reaches.trans {start : State σ ω} (first : Reaches setting start state)
    (second : Reaches setting state next) : Reaches setting start next := by
  induction second with
  | start => exact first
  | move _ moved ih => exact .move ih moved

theorem exists_reaches_ends (setting : Setting σ ω) (start : State σ ω) :
    ∃ final, Reaches setting start final ∧ Ends setting final (run setting start) :=
  run_invariant .move .start

end SentenceSampler.Expansion
