import SentenceSampler.Proofs.Chooser.Answers
import SentenceSampler.Proofs.Expansion.Course

/-!
Runs with one chooser in place of another. Main statement: unless a run ends because its chooser declines,
there are choices that its chooser makes, and any chooser that makes them lets the run go the same way.
-/
namespace SentenceSampler.Expansion

open Chooser (Answers)

variable {σ ω : Type} {setting : Setting σ ω} {state next : State σ ω} {calls : List (Nat × Nat)}
variable {done later : List (Address × String)} {outcome : Outcome σ ω}

/-- The same state with another chooser. -/
def State.withChooser {σ' : Type} (chooser : σ') (state : State σ ω) : State σ' ω :=
  { state with chooser }

theorem Frontier.withChooser {σ' : Type} {grammar : Grammar} (chooser : σ')
    (frontier : Frontier grammar state done later) :
    Frontier grammar (state.withChooser chooser) done later :=
  ⟨frontier.leaves, frontier.pending, frontier.terminal⟩

/-- The choices that are made in a run from a state, each behind its number of candidates. Whoever makes
them lets the run end in the same way, and with as much left of its own chooser as they leave. -/
structure Steers (setting : Setting σ ω) (state : State σ ω) (calls : List (Nat × Nat))
    (outcome : Outcome σ ω) : Prop where
  answers : Answers setting.choose state.chooser calls outcome.last.chooser
  inRange : ∀ call ∈ calls, call.2 < call.1
  replay {σ' : Type} {choose : Chooser σ'} {chooser last : σ'}
    (answers : Answers choose chooser calls last) :
    run ⟨setting.grammar, choose, setting.watch⟩ (state.withChooser chooser) =
      ⟨outcome.stop, outcome.last.withChooser last⟩

theorem Halt.steers (frontier : Frontier setting.grammar state done later)
    (halt : Halt setting state later outcome)
    (answered : ∀ symbol, outcome.stop ≠ some (.failed (.emptyRuleSet symbol))) :
    Steers setting state [] outcome := by
  cases halt with
  | finished =>
    refine ⟨.nil, by simp, fun {_ _ chooser _} answers => ?_⟩
    cases answers
    exact run_of_finished (advance_nil (frontier.withChooser chooser).pending)
  | unknown notTerminal notNonTerminal =>
    refine ⟨.nil, by simp, fun {_ _ chooser _} answers => ?_⟩
    cases answers
    exact run_of_stopped
      ((frontier.withChooser chooser).advance_eq (.unknown notTerminal notNonTerminal))
  | outOfAllowance nonTerminal spent =>
    refine ⟨.nil, by simp, fun {_ _ chooser _} answers => ?_⟩
    cases answers
    exact run_of_stopped
      ((frontier.withChooser chooser).advance_eq (.outOfAllowance nonTerminal spent))
  | declined => exact absurd rfl (answered _)

/-- The choice that a move makes, if any, stands before those that are made afterwards. -/
theorem Frontier.exists_steers_of_moved (frontier : Frontier setting.grammar state done later)
    (moved : advance setting state = .moved next) (steers : Steers setting next calls outcome) :
    ∃ calls, Steers setting state calls outcome := by
  rcases later with _ | ⟨⟨address, symbol⟩, later⟩
  · rw [advance_nil frontier.pending] at moved
    cases moved
  · have turn := frontier.turn setting
    rw [moved] at turn
    cases turn with
    | passed terminal =>
      refine ⟨calls, steers.answers, steers.inRange, fun {_ _ chooser _} answers => ?_⟩
      rw [run_of_moved ((frontier.withChooser chooser).advance_eq (.passed terminal))]
      exact steers.replay answers
    | @expanded index _ rule nonTerminal allowed asked chosen =>
      have within : index < (Grammar.rulesOf setting.grammar.rules symbol).length :=
        (List.getElem?_eq_some_iff.mp chosen).1
      refine ⟨((Grammar.rulesOf setting.grammar.rules symbol).length, index) :: calls,
        .cons asked steers.answers, by simpa [within] using steers.inRange,
        fun {_ _ chooser _} answers => ?_⟩
      cases answers with
      | cons answer answers =>
        rw [run_of_moved ((frontier.withChooser chooser).advance_eq
          (.expanded nonTerminal allowed answer chosen))]
        exact steers.replay answers

/-- Every run is steered by choices, unless it ends because one is declined. -/
theorem Frontier.exists_steers (frontier : Frontier setting.grammar state done later)
    (answered : ∀ symbol,
      (Expansion.run setting state).stop ≠ some (.failed (.emptyRuleSet symbol))) :
    ∃ calls, Steers setting state calls (Expansion.run setting state) := by
  fun_induction Expansion.run setting state generalizing done later with
  | case1 state last move => exact ⟨[], (frontier.halt (.finished move)).steers frontier answered⟩
  | case2 state cause last move =>
    exact ⟨[], (frontier.halt (.stopped move)).steers frontier answered⟩
  | case3 state next move ih =>
    obtain ⟨_, _, _, following⟩ := frontier.progress move
    obtain ⟨_, steers⟩ := ih following answered
    exact frontier.exists_steers_of_moved move steers

end SentenceSampler.Expansion
