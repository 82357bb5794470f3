import SentenceSampler.Proofs.Expansion.Asked
import SentenceSampler.Proofs.Generator.Reports
import SentenceSampler.Proofs.Tree.Splice

/-!
The accounts that the chooser, the watcher and the tree keep of a run. Main statements: at every moment
there are as many answers as reports, each report applies the rule that its answer picks, and the size of
the tree is told by the rules reported so far.
-/
namespace SentenceSampler

open Chooser (Recorded recorded)

/-- A report of an expansion, with the tree before it and the answer that led to it: the answer picks one
of the rules for a leaf, and the tree after it has the right-hand side below that leaf. -/
structure Report.Expands (grammar : Grammar) (report : Report) (before : Tree)
    (answer : Nat × Option Nat) : Prop where
  place : ∃ context : Context, before = context.plug (.leaf report.rule.lhs) ∧
    report.tree = context.plug (.node report.rule.lhs (report.rule.rhs.map .leaf)) ∧
    ∀ leaf ∈ context.leavesBefore, grammar.isTerminal leaf.2 = true
  candidates : answer.1 = (Grammar.rulesOf grammar.rules report.rule.lhs).length
  picked : ∃ pick, answer.2 = some pick ∧
    (Grammar.rulesOf grammar.rules report.rule.lhs)[pick]? = some report.rule

/-- Answers, reports and the tree that they lead to from a given one, in step with each other. -/
inductive Account (grammar : Grammar) (start : Tree) :
    List (Nat × Option Nat) → List Report → Tree → Prop where
  | start : Account grammar start [] [] start
  | expansion {answers : List (Nat × Option Nat)} {reports : List Report} {before : Tree}
      {report : Report} {answer : Nat × Option Nat}
      (earlier : Account grammar start answers reports before)
      (expands : report.Expands grammar before answer) :
      Account grammar start (answers ++ [answer]) (reports ++ [report]) report.tree

theorem Report.Expands.member {grammar : Grammar} {report : Report} {before : Tree}
    {answer : Nat × Option Nat} (expands : report.Expands grammar before answer) :
    report.rule ∈ grammar.rules := by
  obtain ⟨_, _, chosen⟩ := expands.picked
  exact (Grammar.mem_of_rulesOf chosen).1

namespace Account

variable {grammar : Grammar} {start tree : Tree} {answers : List (Nat × Option Nat)}
variable {reports : List Report}

theorem length_eq (account : Account grammar start answers reports tree) :
    answers.length = reports.length := by
  induction account with
  | start => rfl
  | expansion _ _ ih => simp [ih]

theorem nodeCount (account : Account grammar start answers reports tree) :
    tree.nodeCount =
      start.nodeCount + (reports.map fun report => report.rule.rhs.length).sum := by
  induction account with
  | start => rfl
  | expansion earlier expands ih =>
    obtain ⟨context, rfl, grown, -⟩ := expands.place
    rw [grown, Context.nodeCount_splice, ih]
    simp [Nat.add_assoc]

theorem innerCount (account : Account grammar start answers reports tree) :
    tree.innerCount = start.innerCount + reports.length := by
  induction account with
  | start => rfl
  | expansion earlier expands ih =>
    obtain ⟨context, rfl, grown, -⟩ := expands.place
    have some := grammar.rhs_ne_nil _ expands.member
    rw [grown, Context.innerCount_splice _ _ some, ih]
    simp [Nat.add_assoc]

theorem length_yield (account : Account grammar start answers reports tree) :
    tree.yield.length =
      start.yield.length + (reports.map fun report => report.rule.rhs.length - 1).sum := by
  induction account with
  | start => rfl
  | expansion earlier expands ih =>
    obtain ⟨context, rfl, grown, -⟩ := expands.place
    have some := grammar.rhs_ne_nil _ expands.member
    rw [grown, Context.length_yield_splice _ _ some, ih]
    simp [Nat.add_assoc]

/-- Nobody is asked to choose from nothing. -/
theorem candidates_ne_zero (account : Account grammar start answers reports tree) :
    ∀ answer ∈ answers, answer.1 ≠ 0 := by
  induction account with
  | start => simp
  | expansion earlier expands ih =>
    obtain ⟨pick, -, chosen⟩ := expands.picked
    have within := (List.getElem?_eq_some_iff.mp chosen).1
    intro answer member
    rcases List.mem_append.mp member with before | own
    · exact ih answer before
    · rw [List.mem_singleton.mp own, expands.candidates]
      exact Nat.ne_zero_of_lt within

theorem last (account : Account grammar start answers reports tree) :
    (Report.trees start reports)[reports.length]? = some tree := by
  cases account with
  | start => rfl
  | expansion => simp [Report.trees]

theorem take (account : Account grammar start answers reports tree) {count : Nat}
    (within : count ≤ reports.length) :
    ∃ earlier, (Report.trees start reports)[count]? = some earlier ∧
      Account grammar start (answers.take count) (reports.take count) earlier := by
  induction account with
  | start =>
    obtain rfl : count = 0 := Nat.le_zero.mp within
    exact ⟨start, rfl, .start⟩
  | @expansion answers reports _ report answer before expands ih =>
    have whole := before.expansion expands
    rcases Nat.lt_or_ge reports.length count with all | fewer
    · have length : (reports ++ [report]).length = reports.length + 1 := by simp
      obtain rfl : count = (reports ++ [report]).length := Nat.le_antisymm within (length ▸ all)
      refine ⟨report.tree, whole.last, ?_⟩
      rwa [List.take_of_length_le (by rw [whole.length_eq]), List.take_length]
    · obtain ⟨earlier, found, account⟩ := ih fewer
      refine ⟨earlier, Report.trees_append found [report], ?_⟩
      rwa [List.take_append_of_le_length (before.length_eq ▸ fewer),
        List.take_append_of_le_length fewer]

theorem expands (account : Account grammar start answers reports tree) {index : Nat} {report : Report}
    (found : reports[index]? = some report) :
    ∃ before answer, (Report.trees start reports)[index]? = some before ∧
      answers[index]? = some answer ∧ report.Expands grammar before answer := by
  induction account with
  | start => simp at found
  | @expansion answers reports before last answer earlier expands ih =>
    have asked := earlier.length_eq
    rcases Nat.lt_or_ge index reports.length with within | beyond
    · rw [List.getElem?_append_left within] at found
      obtain ⟨before, answer, stood, answered, expands⟩ := ih found
      refine ⟨before, answer, Report.trees_append stood [last], ?_, expands⟩
      rw [List.getElem?_append_left (asked ▸ within), answered]
    · obtain ⟨rfl, rfl⟩ : index = reports.length ∧ last = report := by
        rw [List.getElem?_append_right beyond, List.getElem?_singleton] at found
        split at found
        · exact ⟨by omega, Option.some.inj found⟩
        · cases found
      exact ⟨before, answer, Report.trees_append earlier.last [last], by simp [← asked], expands⟩

end Account

namespace Expansion

variable {σ : Type} {grammar : Grammar} {choose : Chooser σ} {tree : Tree}
variable {state next : State (Recorded σ) (List Report)}

/-- Every expansion is entered in all three accounts. -/
theorem Progress.account (progress : Progress ⟨grammar, recorded choose, .all⟩ state next)
    (account : Account grammar tree state.chooser.answers.reverse state.seen state.tree) :
    Account grammar tree next.chooser.answers.reverse next.seen next.tree := by
  cases progress with
  | passed pending => exact account
  | @expanded context rule pick chooser pending filled terminal allowed asked chosen =>
    let report : Report := ⟨state.steps + 1, rule,
      (state.apply .all context.address pending rule chooser).tree⟩
    have expands : report.Expands grammar state.tree
        ((Grammar.rulesOf grammar.rules rule.lhs).length, some pick) :=
      ⟨⟨context, filled, apply_tree filled .all pending rule chooser, terminal⟩, rfl, pick, rfl, chosen⟩
    have entered := account.expansion expands
    simpa [State.apply, Watcher.all, Chooser.recorded_answers asked, report] using entered

/-- The end of a run adds nothing to the questions, or one that had rules to choose from and was no use. -/
theorem Halt.questions {later : List (Address × String)} {outcome : Outcome (Recorded σ) (List Report)}
    (halt : Halt ⟨grammar, recorded choose, .all⟩ state later outcome) :
    ∃ declined : List (Nat × Option Nat), (∀ question ∈ declined, question.1 ≠ 0) ∧
      outcome.last.chooser.answers.reverse = state.chooser.answers.reverse ++ declined := by
  cases halt with
  | finished => exact ⟨[], by simp, (List.append_nil _).symm⟩
  | unknown => exact ⟨[], by simp, (List.append_nil _).symm⟩
  | outOfAllowance => exact ⟨[], by simp, (List.append_nil _).symm⟩
  | @declined address symbol later answer chooser nonTerminal allowed asked unusable =>
    refine ⟨[((Grammar.rulesOf grammar.rules symbol).length, answer)], ?_, ?_⟩
    · intro question member
      rw [List.mem_singleton.mp member]
      exact Grammar.length_rulesOf_ne_zero nonTerminal
    · exact (congrArg List.reverse (Chooser.recorded_answers asked)).trans List.reverse_cons

end Expansion

end SentenceSampler
