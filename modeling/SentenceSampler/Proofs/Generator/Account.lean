import SentenceSampler.Proofs.Expansion.Account

/-!
What a run costs. Main statement: its reports tell the size of every tree that it comes by, and its
chooser is asked once for every report, and once more only if it declines.
-/
namespace SentenceSampler

open Chooser (Recorded recorded)
open Expansion

namespace Generator

variable {σ : Type}

/-- How many questions a run has asked, by the way it ended. The last one of a run that ends because a
choice was declined is about the rules for the symbol that is told. -/
inductive Questioned (generator : Generator) (grammar : Grammar) (patience steps : Nat)
    (questions : List (Nat × Option Nat)) : Ending → Prop where
  | finished {done : Tree} (asked : questions.length = steps) :
      Questioned generator grammar patience steps questions (.finished done)
  | unknownSymbol {symbol : Symbol} (asked : questions.length = steps) :
      Questioned generator grammar patience steps questions (.failed (.unknownSymbol symbol))
  | stepLimitExceeded {symbol : Symbol} (asked : questions.length = steps)
      (limited : generator.maxSteps = some steps) :
      Questioned generator grammar patience steps questions (.failed (.stepLimitExceeded steps symbol))
  | interrupted (asked : questions.length = steps) (unlimited : generator.maxSteps = none)
      (spent : steps = patience) :
      Questioned generator grammar patience steps questions .interrupted
  | emptyRuleSet {symbol : Symbol} {answer : Option Nat} (asked : questions.length = steps + 1)
      (last : questions[steps]? = some ((Grammar.rulesOf grammar.rules symbol).length, answer))
      (unusable : ∀ index, answer = some index →
        (Grammar.rulesOf grammar.rules symbol).length ≤ index) :
      Questioned generator grammar patience steps questions (.failed (.emptyRuleSet symbol))

theorem questioned_of_halt {generator : Generator} {grammar : Grammar} {choose : Chooser σ}
    {patience : Nat} {tree : Tree} {state : State (Recorded σ) (List Report)}
    {later : List (Address × String)} {outcome : Outcome (Recorded σ) (List Report)}
    (account : Account grammar tree state.chooser.answers.reverse state.seen state.tree)
    (reported : Reported tree (generator.maxSteps.getD patience) state)
    (halt : Halt ⟨grammar, recorded choose, .all⟩ state later outcome) :
    Questioned generator grammar patience outcome.last.steps outcome.last.chooser.answers.reverse
      (.ofStop generator.maxSteps outcome.last.tree outcome.stop) := by
  have asked : state.chooser.answers.reverse.length = state.steps :=
    account.length_eq.trans reported.length
  cases halt with
  | finished => exact .finished asked
  | unknown notTerminal notNonTerminal => exact .unknownSymbol asked
  | outOfAllowance nonTerminal spent =>
    have total := reported.total
    rw [spent, Nat.add_zero] at total
    cases limited : generator.maxSteps with
    | none =>
      rw [limited] at total
      exact .interrupted asked limited total
    | some limit =>
      rw [limited] at total
      obtain rfl : state.steps = limit := total
      exact .stepLimitExceeded asked limited
  | @declined address symbol later answer chooser nonTerminal allowed question unusable =>
    have entered : chooser.answers.reverse = state.chooser.answers.reverse ++
        [((Grammar.rulesOf grammar.rules symbol).length, answer)] := by
      simp [Chooser.recorded_answers question]
    have once : chooser.answers.reverse.length = state.steps + 1 := by
      rw [entered, List.length_append, asked, List.length_singleton]
    have last : chooser.answers.reverse[state.steps]? =
        some ((Grammar.rulesOf grammar.rules symbol).length, answer) := by
      rw [entered, ← asked, List.getElem?_concat_length]
    exact .emptyRuleSet once last unusable

/-- Step by step, a run adds to its tree as many nodes as the right-hand side of the rule has symbols, one
node with children, and as many leaves as there are symbols but one. Its chooser is asked once for every
step, never with no candidates, with as many as there are rules for the leaf that is expanded, and the rule
reported is the one that the answer picks among these. Only a choice that is declined is one question
more. -/
theorem complete_account (generator : Generator) (grammar : Grammar) (choose : Chooser σ)
    (patience : Nat) (tree : Tree) (chooser : σ) :
    let run := generator.complete ⟨grammar, recorded choose, .all⟩ patience tree ⟨chooser, []⟩ []
    let trees := Report.trees tree run.seen
    let questions := run.chooser.answers.reverse
    run.seen.length = run.steps ∧
      (∀ count ≤ run.steps, ∃ grown, trees[count]? = some grown ∧
        let earlier := run.seen.take count
        grown.nodeCount =
          tree.nodeCount + (earlier.map fun report => report.rule.rhs.length).sum ∧
        grown.innerCount = tree.innerCount + count ∧
        grown.yield.length =
          tree.yield.length + (earlier.map fun report => report.rule.rhs.length - 1).sum) ∧
      (∀ (index : Nat) (report : Report), run.seen[index]? = some report → ∃ before question,
        trees[index]? = some before ∧ questions[index]? = some question ∧
          report.Expands grammar before question) ∧
      (∀ question ∈ questions, question.1 ≠ 0) ∧
      Questioned generator grammar patience run.steps questions run.ending := by
  intro run trees questions
  let setting : Setting (Recorded σ) (List Report) := ⟨grammar, recorded choose, .all⟩
  let start : State (Recorded σ) (List Report) :=
    .initial tree (generator.maxSteps.getD patience) ⟨chooser, []⟩ []
  have frontier : Frontier setting.grammar start [] tree.leaves := Frontier.initial _ _ _ _ _
  obtain ⟨final, done, later, reaches, last, halt⟩ := frontier.exists_halt
  have reported := frontier.invariant Reported.progress (Reported.initial tree _ _) reaches
  have account : Account grammar tree final.chooser.answers.reverse final.seen final.tree :=
    frontier.invariant Progress.account .start reaches
  have questioned := questioned_of_halt account reported halt
  obtain ⟨-, steps, seen⟩ := halt.last_eq
  have sameSteps : run.steps = final.steps := steps
  have sameSeen : run.seen = final.seen := seen
  have length : run.seen.length = run.steps := by rw [sameSteps, sameSeen, reported.length]
  rw [← sameSeen] at account
  -- The questions of the account, and the one that is declined at the end, if any.
  obtain ⟨declined, nonempty, split⟩ : ∃ declined : List (Nat × Option Nat),
      (∀ question ∈ declined, question.1 ≠ 0) ∧
        questions = final.chooser.answers.reverse ++ declined := halt.questions
  refine ⟨length, ?_, ?_, ?_, questioned⟩
  · intro count within
    rw [← length] at within
    obtain ⟨grown, found, entered⟩ := account.take within
    have inner := entered.innerCount
    rw [List.length_take_of_le within] at inner
    exact ⟨grown, found, entered.nodeCount, inner, entered.length_yield⟩
  · intro index report found
    obtain ⟨before, question, stood, answered, expands⟩ := account.expands found
    refine ⟨before, question, stood, ?_, expands⟩
    rw [split, List.getElem?_append_left (List.getElem?_eq_some_iff.mp answered).1, answered]
  · intro question member
    rw [split] at member
    rcases List.mem_append.mp member with answered | last
    · exact account.candidates_ne_zero question answered
    · exact nonempty question last

end Generator

end SentenceSampler
