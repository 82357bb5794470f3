import SentenceSampler.Proofs.Expansion.Asked
import SentenceSampler.Proofs.Expansion.Shift
import SentenceSampler.Proofs.Generator.Reports

/-!
What a step limit does to a run. Main statement: under a lower limit a run is the same, or it is cut
short after as many expansions as the limit allows.
-/
namespace SentenceSampler

open Chooser (Recorded recorded)
open Expansion

namespace Expansion

variable {σ ω : Type}

/-- More expansions are allowed. -/
def Shift.allow (extra : Nat) : Shift σ ω σ ω := ⟨id, id, 0, extra⟩

theorem Shift.respects_allow (extra : Nat) (setting : Setting σ ω) :
    (Shift.allow extra).Respects setting setting where
  grammar := rfl
  choose _ _ := rfl
  watch _ _ := rfl

theorem initial_allow (tree : Tree) (allowance extra : Nat) (chooser : σ) (seen : ω) :
    (State.initial tree allowance chooser seen).shift (.allow extra) =
      .initial tree (allowance + extra) chooser seen :=
  rfl

theorem Frontier.shifted {grammar : Grammar} {state : State σ ω} {done later : List (Address × String)}
    (frontier : Frontier grammar state done later) (shift : Shift σ ω σ ω) :
    Frontier grammar (state.shift shift) done later :=
  ⟨frontier.leaves, frontier.pending, frontier.terminal⟩

/-- The first leaf that is still to be looked at, where it carries no terminal, is the leftmost one of
the tree that does not. -/
theorem Frontier.find_notTerminal {grammar : Grammar} {state : State σ ω}
    {done later : List (Address × String)} {address : Address} {symbol : Symbol}
    (frontier : Frontier grammar state done ((address, symbol) :: later))
    (notTerminal : grammar.isTerminal symbol = false) :
    state.tree.yield.find? (fun token => !grammar.isTerminal token) = some symbol := by
  have none : (done.map Prod.snd).find? (fun token => !grammar.isTerminal token) = none := by
    simpa [List.find?_eq_none] using frontier.terminal
  rw [frontier.yield, List.find?_append, none]
  simp [notTerminal]

end Expansion

namespace Generator

variable {σ : Type}

/-- A run that has made all expansions that its limit allows, and stops at the leftmost symbol that is
no terminal, where a longer run asks the chooser once more. -/
structure Truncated (grammar : Grammar) (tree : Tree) (limit : Nat)
    (run longer : Run (Recorded σ) (List Report)) : Prop where
  stopped : ∃ cut symbol, (Report.trees tree run.seen)[limit]? = some cut ∧
    cut.yield.find? (fun token => !grammar.isTerminal token) = some symbol ∧
    grammar.isNonTerminal symbol = true ∧ run.ending = .failed (.stepLimitExceeded limit symbol)
  steps : run.steps = limit
  reports : run.seen.length = limit
  asked : run.chooser.asked = limit
  seen : run.seen = longer.seen.take limit
  more : limit < longer.chooser.asked

theorem Ending.ofStop_eq {stop : Option Stop} (within : ∀ symbol, stop ≠ some (.outOfAllowance symbol))
    (maxSteps maxSteps' : Option Nat) (tree : Tree) :
    ofStop maxSteps tree stop = ofStop maxSteps' tree stop := by
  rcases stop with _ | ⟨symbol⟩ | ⟨cause⟩
  · rfl
  · exact absurd rfl (within symbol)
  · rfl

/-- A run that does not run out of its allowance is the same with any more of it. -/
theorem complete_more {ω : Type} {generator generator' : Generator} {patience patience' : Nat}
    (setting : Setting σ ω) (tree : Tree) (chooser : σ) (seen : ω)
    (enough : generator.maxSteps.getD patience ≤ generator'.maxSteps.getD patience')
    (within : ∀ symbol, (Expansion.run setting
      (.initial tree (generator.maxSteps.getD patience) chooser seen)).stop ≠
        some (.outOfAllowance symbol)) :
    generator'.complete setting patience' tree chooser seen =
      generator.complete setting patience tree chooser seen := by
  obtain ⟨extra, total⟩ := Nat.exists_eq_add_of_le enough
  have goes := run_shift (Shift.respects_allow extra setting)
    (.initial tree (generator.maxSteps.getD patience) chooser seen) (.inr within)
  rw [initial_allow, ← total] at goes
  simp only [complete, goes]
  rw [Ending.ofStop_eq within generator'.maxSteps generator.maxSteps]
  rfl

theorem complete_patience {ω : Type} {generator : Generator} {setting : Setting σ ω}
    {patience longer : Nat} {tree : Tree} {chooser : σ} {seen : ω} (enough : patience ≤ longer)
    (ended : (generator.complete setting patience tree chooser seen).ending ≠ .interrupted) :
    generator.complete setting longer tree chooser seen =
      generator.complete setting patience tree chooser seen := by
  cases limited : generator.maxSteps with
  | some limit => simp [complete, limited]
  | none =>
    refine complete_more setting tree chooser seen (by simpa [limited] using enough) ?_
    intro symbol spent
    apply ended
    simp only [complete]
    rw [spent, limited]
    rfl

/-- A run asks its chooser once for every expansion, and once more if a choice is declined. -/
theorem complete_asked {ω : Type} (generator : Generator) (grammar : Grammar) (choose : Chooser σ)
    (watch : Watcher ω) (patience : Nat) (tree : Tree) (chooser : σ) (seen : ω) :
    let run := generator.complete ⟨grammar, recorded choose, watch⟩ patience tree ⟨chooser, []⟩ seen
    run.chooser.asked = run.steps ∨
      (∃ symbol, run.ending = .failed (.emptyRuleSet symbol)) ∧
        run.chooser.asked = run.steps + 1 := by
  intro run
  let setting : Setting (Recorded σ) ω := ⟨grammar, recorded choose, watch⟩
  let start : State (Recorded σ) ω :=
    .initial tree (generator.maxSteps.getD patience) ⟨chooser, []⟩ seen
  have frontier : Frontier setting.grammar start [] tree.leaves := Frontier.initial _ _ _ _ _
  rcases frontier.run_asked rfl rfl with once | ⟨⟨symbol, declined⟩, more⟩
  · have counted : run.chooser.asked + 0 = 0 + run.steps := once
    exact .inl (by omega)
  · have ending : run.ending = .failed (.emptyRuleSet symbol) := by
      simp only [run, complete]
      rw [declined]
      rfl
    have counted : run.chooser.asked + 0 = 0 + run.steps + 1 := more
    exact .inr ⟨⟨symbol, ending⟩, by omega⟩

/-- A limit leaves a run as it is, or cuts it short. -/
theorem complete_eq_or_truncated (grammar : Grammar) (choose : Chooser σ) (patience : Nat)
    (tree : Tree) (chooser : σ) {limit more : Nat} (less : limit < more) :
    let setting : Setting (Recorded σ) (List Report) := ⟨grammar, recorded choose, .all⟩
    let run := (Generator.mk (some limit)).complete setting patience tree ⟨chooser, []⟩ []
    let longer := (Generator.mk (some more)).complete setting patience tree ⟨chooser, []⟩ []
    longer = run ∨ Truncated grammar tree limit run longer := by
  intro setting run longer
  let start : State (Recorded σ) (List Report) := .initial tree limit ⟨chooser, []⟩ []
  have frontier : Frontier setting.grammar start [] tree.leaves := Frontier.initial _ _ _ _ _
  by_cases exceeded : ∃ symbol, (Expansion.run setting start).stop = some (.outOfAllowance symbol)
  · right
    obtain ⟨symbol, exceeded⟩ := exceeded
    obtain ⟨extra, rfl⟩ := Nat.exists_eq_add_of_lt less
    obtain ⟨final, done, address, later, reaches, last, nonTerminal, spent, ran⟩ :=
      frontier.exists_spent exceeded
    obtain ⟨length, total, cut⟩ :=
      frontier.invariant Reported.progress (Reported.initial tree limit _) reaches
    have steps : final.steps = limit := by omega
    have asked : final.chooser.asked = limit := by
      simpa [start, State.initial, Recorded.asked, steps] using frontier.asked rfl reaches
    -- The longer run comes by the same state, with some allowance left.
    let beyond := final.shift (.allow (extra + 1))
    have further : Frontier setting.grammar beyond done ((address, symbol) :: later) :=
      last.shifted _
    have same : Expansion.run setting (.initial tree (limit + extra + 1) ⟨chooser, []⟩ []) =
        Expansion.run setting beyond :=
      (reaches.shifted (Shift.respects_allow (extra + 1) setting)).run_eq
    have asks : beyond.chooser.asked < longer.chooser.asked := by
      have allowed : 0 < beyond.allowance := Nat.add_pos_right final.allowance extra.succ_pos
      simp only [longer, complete, Option.getD_some, same]
      exact further.asked_lt rfl nonTerminal allowed
    have reports : final.seen <+: longer.seen := by
      simp only [longer, complete, Option.getD_some, same]
      exact further.seen_prefix rfl
    have truncated : run = ⟨.failed (.stepLimitExceeded limit symbol), final.steps, final.chooser,
        final.seen⟩ := by
      simp only [run, complete, Option.getD_some]
      rw [ran]
      rfl
    have notTerminal := Grammar.not_isTerminal_of_isNonTerminal nonTerminal
    have leftmost := last.find_notTerminal notTerminal
    rw [steps] at cut length
    rw [truncated]
    exact {
      stopped := ⟨final.tree, symbol, cut, leftmost, nonTerminal, rfl⟩
      steps := steps
      reports := length
      asked := asked
      seen := length ▸ List.prefix_iff_eq_take.mp reports
      more := asked ▸ asks }
  · left
    exact complete_more setting tree _ _ (Nat.le_of_lt less) (not_exists.mp exceeded)

/-- A step limit only ever truncates. Under a lower limit a run is the one under the higher limit, or it
is cut short; in particular a success is the same success, and a symbol that is unknown, or a choice that
is declined, before the lower limit is reached is reported all the same. -/
theorem complete_truncated (grammar : Grammar) (choose : Chooser σ) (patience : Nat) (tree : Tree)
    (chooser : σ) {limit more : Nat} (less : limit < more) :
    let setting : Setting (Recorded σ) (List Report) := ⟨grammar, recorded choose, .all⟩
    let run := (Generator.mk (some limit)).complete setting patience tree ⟨chooser, []⟩ []
    let longer := (Generator.mk (some more)).complete setting patience tree ⟨chooser, []⟩ []
    (longer = run ∨ Truncated grammar tree limit run longer) ∧
      (∀ done, run.ending = .finished done → longer.ending = .finished done) ∧
      (∀ symbol, longer.ending = .failed (.unknownSymbol symbol) → longer.steps ≤ limit →
        longer = run) ∧
      ∀ symbol, longer.ending = .failed (.emptyRuleSet symbol) → longer.steps < limit →
        longer = run := by
  intro setting run longer
  have either : longer = run ∨ Truncated grammar tree limit run longer :=
    complete_eq_or_truncated grammar choose patience tree chooser less
  have questions : longer.chooser.asked = longer.steps ∨
      (∃ symbol, longer.ending = .failed (.emptyRuleSet symbol)) ∧
        longer.chooser.asked = longer.steps + 1 :=
    complete_asked (Generator.mk (some more)) grammar choose .all patience tree chooser []
  refine ⟨either, ?_, ?_, ?_⟩
  · intro done finished
    rcases either with same | truncated
    · rw [same, finished]
    · obtain ⟨_, _, _, _, _, stopped⟩ := truncated.stopped
      rw [stopped] at finished
      cases finished
  · intro symbol unknown within
    rcases either with same | truncated
    · exact same
    · have asked := truncated.more
      rcases questions with once | ⟨⟨_, declined⟩, _⟩
      · omega
      · rw [unknown] at declined
        cases declined
  · intro symbol declined within
    rcases either with same | truncated
    · exact same
    · have asked := truncated.more
      rcases questions with once | ⟨_, more⟩ <;> omega

theorem complete_truncated_pair :
    1 < 3 ∧ Truncated .names (.leaf "N") 1
      ((Generator.mk (some 1)).complete ⟨.names, recorded Script.choose, .all⟩ 0 (.leaf "N")
        ⟨.ofList [1, 0, 0], []⟩ [])
      ((Generator.mk (some 3)).complete ⟨.names, recorded Script.choose, .all⟩ 0 (.leaf "N")
        ⟨.ofList [1, 0, 0], []⟩ []) := by
  have finished : ((Generator.mk (some 3)).complete ⟨.names, recorded Script.choose, .all⟩ 0
      (.leaf "N") ⟨.ofList [1, 0, 0], []⟩ []).ending = .finished .pair := by cbv
  have stopped : ((Generator.mk (some 1)).complete ⟨.names, recorded Script.choose, .all⟩ 0
      (.leaf "N") ⟨.ofList [1, 0, 0], []⟩ []).ending = .failed (.stepLimitExceeded 1 "N") := by cbv
  have less : 1 < 3 := by decide
  obtain ⟨either, _⟩ :=
    complete_truncated .names Script.choose 0 (.leaf "N") (.ofList [1, 0, 0]) less
  refine ⟨less, either.resolve_left ?_⟩
  intro same
  rw [same, stopped] at finished
  cases finished

end Generator

end SentenceSampler
