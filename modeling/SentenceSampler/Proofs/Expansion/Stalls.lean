import SentenceSampler.Proofs.Chooser.Answers
import SentenceSampler.Proofs.Expansion.Course
import SentenceSampler.Proofs.Grammar.Reachable

/-!
Choices that use up an allowance. Main statements: a chooser that makes them lets the run go on until
nothing is left of its allowance, and wherever an endless symbol is still to come there are such choices.
-/
namespace SentenceSampler.Expansion

open Chooser (Answers)

/-- Choices, each behind its number of candidates, with which an allowance is used up before the leaves
with the given symbols are all looked at. -/
inductive Stalls (grammar : Grammar) : Nat → List Symbol → List (Nat × Nat) → Prop where
  | spent {symbol : Symbol} {later : List Symbol}
      (nonTerminal : grammar.isNonTerminal symbol = true) : Stalls grammar 0 (symbol :: later) []
  | passed {allowance : Nat} {symbol : Symbol} {later : List Symbol} {calls : List (Nat × Nat)}
      (terminal : grammar.isTerminal symbol = true) (rest : Stalls grammar allowance later calls) :
      Stalls grammar allowance (symbol :: later) calls
  | expanded {allowance index : Nat} {symbol : Symbol} {rule : Rule} {later : List Symbol}
      {calls : List (Nat × Nat)}
      (chosen : (Grammar.rulesOf grammar.rules symbol)[index]? = some rule)
      (rest : Stalls grammar allowance (rule.rhs ++ later) calls) :
      Stalls grammar (allowance + 1) (symbol :: later)
        (((Grammar.rulesOf grammar.rules symbol).length, index) :: calls)

variable {σ ω : Type} {grammar : Grammar} {setting : Setting σ ω} {state : State σ ω} {last : σ}
variable {allowance : Nat} {symbols : List Symbol} {calls : List (Nat × Nat)}
variable {done later : List (Address × String)}

theorem Stalls.inRange (stalls : Stalls grammar allowance symbols calls) :
    ∀ call ∈ calls, call.2 < call.1 := by
  induction stalls with
  | spent => simp
  | passed _ _ ih => exact ih
  | expanded chosen _ ih =>
    intro call member
    rcases List.mem_cons.mp member with rfl | member
    · exact (List.getElem?_eq_some_iff.mp chosen).1
    · exact ih call member

/-- Whoever makes such choices is stopped by the allowance and by nothing else. -/
theorem Stalls.run (stalls : Stalls setting.grammar allowance symbols calls)
    (frontier : Frontier setting.grammar state done later)
    (labels : later.map Prod.snd = symbols) (left : state.allowance = allowance)
    (answers : Answers setting.choose state.chooser calls last) :
    ∃ symbol, (Expansion.run setting state).stop = some (.outOfAllowance symbol) ∧
      (Expansion.run setting state).last.chooser = last := by
  induction stalls generalizing state done later with
  | spent nonTerminal =>
    obtain ⟨⟨address, symbol⟩, later, rfl, rfl, rfl⟩ := List.map_eq_cons_iff.mp labels
    cases answers with
    | nil =>
      rw [run_of_stopped (frontier.advance_eq (.outOfAllowance nonTerminal left))]
      exact ⟨symbol, rfl, rfl⟩
  | passed terminal _ ih =>
    obtain ⟨⟨address, symbol⟩, later, rfl, rfl, rfl⟩ := List.map_eq_cons_iff.mp labels
    rw [run_of_moved (frontier.advance_eq (.passed terminal))]
    exact ih (frontier.pass terminal) rfl left answers
  | expanded chosen _ ih =>
    obtain ⟨⟨address, symbol⟩, later, rfl, rfl, rfl⟩ := List.map_eq_cons_iff.mp labels
    obtain ⟨member, rfl⟩ := Grammar.mem_of_rulesOf chosen
    have nonTerminal := (setting.grammar.isNonTerminal_iff _).mpr ⟨_, member, rfl⟩
    have allowed : 0 < state.allowance := by omega
    cases answers with
    | cons answer answers =>
      rw [run_of_moved (frontier.advance_eq (.expanded nonTerminal allowed answer chosen))]
      refine ih (frontier.expand member _ _) ?_ ?_ answers
      · rw [List.map_append, Tree.forestLeavesAt_map_snd, Tree.forestTokens_map_leaf]
      · simp only [State.apply]
        omega

/-- Symbols that a grammar knows, an endless one among them. -/
structure Endures (grammar : Grammar) (symbols : List Symbol) : Prop where
  known : ∀ symbol ∈ symbols, grammar.Knows symbol
  endless : ∃ symbol ∈ symbols, grammar.Endless symbol

variable {symbol : Symbol} {others : List Symbol}

theorem Endures.pass (endures : Endures grammar (symbol :: others))
    (terminal : grammar.isTerminal symbol = true) : Endures grammar others where
  known part member := endures.known part (List.mem_cons_of_mem _ member)
  endless := by
    obtain ⟨part, member, endless⟩ := endures.endless
    rcases List.mem_cons.mp member with rfl | member
    · obtain ⟨_, leads, _⟩ := endless.leads
      have nonTerminal := leads.isNonTerminal
      simp [Grammar.not_isNonTerminal_of_isTerminal terminal] at nonTerminal
    · exact ⟨part, member, endless⟩

/-- An endless symbol has a rule that goes on; for another one any rule will do, since the endless symbol
stays behind it. -/
theorem Endures.expand (endures : Endures grammar (symbol :: others))
    (nonTerminal : grammar.isNonTerminal symbol = true) :
    ∃ rule ∈ grammar.rules, rule.lhs = symbol ∧ Endures grammar (rule.rhs ++ others) := by
  obtain ⟨rule, member, same, goesOn⟩ : ∃ rule ∈ grammar.rules, rule.lhs = symbol ∧
      ∃ part ∈ rule.rhs ++ others, grammar.Endless part := by
    obtain ⟨part, among, endless⟩ := endures.endless
    rcases List.mem_cons.mp among with rfl | among
    · obtain ⟨part, ⟨rule, member, same, inside⟩, endless⟩ := endless.leads
      exact ⟨rule, member, same, part, List.mem_append_left _ inside, endless⟩
    · obtain ⟨rule, member, same⟩ := (grammar.isNonTerminal_iff symbol).mp nonTerminal
      exact ⟨rule, member, same, part, List.mem_append_right _ among, endless⟩
  refine ⟨rule, member, same, fun part among => ?_, goesOn⟩
  rcases List.mem_append.mp among with inside | among
  · exact Grammar.knows_of_mem_rhs member inside
  · exact endures.known part (List.mem_cons_of_mem _ among)

/-- Terminals in front are passed. -/
theorem Endures.exists_stalls_of_nonTerminal
    (stalls : ∀ {symbol others}, grammar.isNonTerminal symbol = true →
      Endures grammar (symbol :: others) → ∃ calls, Stalls grammar allowance (symbol :: others) calls)
    (endures : Endures grammar symbols) : ∃ calls, Stalls grammar allowance symbols calls := by
  induction symbols with
  | nil => simpa using endures.endless
  | cons symbol others ih =>
    rcases endures.known symbol List.mem_cons_self with terminal | nonTerminal
    · obtain ⟨calls, rest⟩ := ih (endures.pass terminal)
      exact ⟨calls, .passed terminal rest⟩
    · exact stalls nonTerminal endures

theorem Endures.exists_stalls (allowance : Nat) (endures : Endures grammar symbols) :
    ∃ calls, Stalls grammar allowance symbols calls := by
  induction allowance generalizing symbols with
  | zero =>
    exact endures.exists_stalls_of_nonTerminal fun nonTerminal _ => ⟨[], .spent nonTerminal⟩
  | succ allowance ih =>
    refine endures.exists_stalls_of_nonTerminal fun nonTerminal endures => ?_
    obtain ⟨rule, member, rfl, goesOn⟩ := endures.expand nonTerminal
    obtain ⟨index, chosen⟩ := List.getElem?_of_mem (Grammar.mem_rulesOf member)
    obtain ⟨calls, rest⟩ := ih goesOn
    exact ⟨_, .expanded chosen rest⟩

end SentenceSampler.Expansion
