import SentenceSampler.Proofs.Chooser.Answers
import SentenceSampler.Proofs.Expansion.Carrying
import SentenceSampler.Proofs.Generator.Completion
import SentenceSampler.Proofs.Generator.Unknown

/-!
How a run can fail. Main statement: there are three causes, an unknown symbol of the tree that the run
starts with, a choice that is declined, and the limit; only the last one is left where a tree is grown from
the start symbol by a script or by unbiased picks.
-/
namespace SentenceSampler

open Chooser (Recorded recorded)
open Expansion

namespace Generator

variable {σ ω : Type}

/-- The cause is that a run has made as many expansions as its limit allows. -/
def Exceeded (generator : Generator) (cause : Failure) : Prop :=
  ∃ limit symbol, generator.maxSteps = some limit ∧ cause = .stepLimitExceeded limit symbol

/-- The cause is that no rule is chosen for a non-terminal: the last answer is no index of one of its
rules, and leaves the chooser that is given. -/
def Declined (setting : Setting σ ω) (chooser : σ) (cause : Failure) : Prop :=
  ∃ symbol before answer, cause = .emptyRuleSet symbol ∧
    setting.grammar.isNonTerminal symbol = true ∧
    setting.choose (Grammar.rulesOf setting.grammar.rules symbol).length before = (answer, chooser) ∧
    ∀ index, answer = some index →
      (Grammar.rulesOf setting.grammar.rules symbol).length ≤ index

/-- How a run from a state can fail. -/
inductive Fails (generator : Generator) (setting : Setting σ ω) (start : State σ ω) (run : Run σ ω) :
    Failure → Prop where
  | unknown {final : State σ ω} {done later : List (Address × String)} {address : Address}
      {symbol : Symbol} (reaches : Reaches setting start final)
      (frontier : Frontier setting.grammar final done ((address, symbol) :: later))
      (unknown : ¬ setting.grammar.Knows symbol) (steps : run.steps = final.steps)
      (seen : run.seen = final.seen) : Fails generator setting start run (.unknownSymbol symbol)
  | declined {cause : Failure} (declined : Declined setting run.chooser cause) :
      Fails generator setting start run cause
  | exceeded {cause : Failure} (exceeded : generator.Exceeded cause) :
      Fails generator setting start run cause

variable {generator : Generator} {setting : Setting σ ω} {patience : Nat} {tree : Tree}
variable {chooser : σ} {seen : ω} {cause : Failure}

theorem complete_fails
    (failed : (generator.complete setting patience tree chooser seen).ending = .failed cause) :
    Fails generator setting (.initial tree (generator.maxSteps.getD patience) chooser seen)
      (generator.complete setting patience tree chooser seen) cause := by
  obtain ⟨final, done, later, reaches, frontier, halt⟩ :=
    (Frontier.initial setting.grammar tree (generator.maxSteps.getD patience) chooser
      seen).exists_halt
  rw [complete] at failed ⊢
  generalize run setting _ = outcome at failed halt ⊢
  cases halt with
  | finished => cases failed
  | unknown notTerminal notNonTerminal =>
    cases failed
    exact .unknown reaches frontier (by simp [Grammar.Knows, notTerminal, notNonTerminal]) rfl rfl
  | @outOfAllowance _ symbol _ nonTerminal spent =>
    apply Fails.exceeded
    cases limited : generator.maxSteps with
    | none => simp [Ending.ofStop, limited] at failed
    | some limit =>
      simp only [Ending.ofStop, limited, Ending.failed.injEq] at failed
      exact ⟨limit, symbol, limited, failed.symm⟩
  | declined nonTerminal allowed asked unusable =>
    cases failed
    exact .declined ⟨_, _, _, rfl, nonTerminal, asked, unusable⟩

theorem generate_fails
    (failed : (generator.generate setting patience chooser seen).ending = .failed cause) :
    generator.Exceeded cause ∨
      Declined setting (generator.generate setting patience chooser seen).chooser cause := by
  cases complete_fails failed with
  | unknown reaches frontier unknown =>
    have extended := (Frontier.initial setting.grammar _ _ _ _).extension reaches
    have first := frontier.firstUnknown?_yield unknown
    have known : setting.grammar.firstUnknown? [setting.grammar.start] = none :=
      Grammar.firstUnknown?_eq_none_iff.mpr (by simpa using setting.grammar.knows_start)
    rw [extended.firstUnknown?_yield, State.initial, Tree.yield_leaf, known] at first
    cases first
  | declined declined => exact .inr declined
  | exceeded exceeded => exact .inl exceeded

/-- With a chooser that answers with the index of a candidate, or declines and has given up in some way, the
limit is the only cause but for the last question. -/
theorem generate_fails_of_choose (gaveUp : Nat → σ → σ → Prop)
    (answers : ∀ {candidates : Nat} {before after : σ} {answer : Option Nat}, candidates ≠ 0 →
      setting.choose candidates before = (answer, after) →
        (∃ index < candidates, answer = some index) ∨ answer = none ∧ gaveUp candidates before after)
    (failed : (generator.generate setting patience chooser seen).ending = .failed cause) :
    generator.Exceeded cause ∨ ∃ symbol before, cause = .emptyRuleSet symbol ∧
      setting.grammar.isNonTerminal symbol = true ∧
      setting.choose (Grammar.rulesOf setting.grammar.rules symbol).length before =
        (none, (generator.generate setting patience chooser seen).chooser) ∧
      gaveUp (Grammar.rulesOf setting.grammar.rules symbol).length before
        (generator.generate setting patience chooser seen).chooser := by
  rcases generate_fails failed with exceeded | ⟨symbol, before, answer, same, nonTerminal, asked, unusable⟩
  · exact .inl exceeded
  · rcases answers (Grammar.length_rulesOf_ne_zero nonTerminal) asked with ⟨index, within, answered⟩ | ⟨rfl, gave⟩
    · exact absurd (unusable index answered) (Nat.not_le_of_lt within)
    · exact .inr ⟨symbol, before, same, nonTerminal, asked, gave⟩

/-- What a run that fails tells of the cause, where all its reports are kept and its chooser is recorded:
which symbol is unknown, and that everything to its left has been expanded; which choice was declined; or
that there is a limit. -/
inductive Fault (generator : Generator) (grammar : Grammar) (tree : Tree)
    (run : Run (Recorded σ) (List Report)) : Failure → Prop where
  | unknownSymbol {symbol : Symbol} {done later : List Tree} {last : Tree}
      (first : grammar.firstUnknown? tree.yield = some symbol)
      (latest : (Report.trees tree run.seen)[run.steps]? = some last)
      (grafted : tree.Grafted (done ++ .leaf symbol :: later) last)
      (derives : ∀ part ∈ done, grammar.Derives part) :
      Fault generator grammar tree run (.unknownSymbol symbol)
  | emptyRuleSet {symbol : Symbol} {candidates : Nat} {answer : Option Nat}
      {earlier : List (Nat × Option Nat)} (nonTerminal : grammar.isNonTerminal symbol = true)
      (asked : run.chooser.answers = (candidates, answer) :: earlier)
      (unusable : ∀ index, answer = some index → candidates ≤ index) :
      Fault generator grammar tree run (.emptyRuleSet symbol)
  | stepLimitExceeded {limit : Nat} {symbol : Symbol} (limited : generator.maxSteps = some limit) :
      Fault generator grammar tree run (.stepLimitExceeded limit symbol)

theorem complete_fault (generator : Generator) (grammar : Grammar) (choose : Chooser σ) (patience : Nat)
    (tree : Tree) (chooser : σ) {cause : Failure} :
    let run := generator.complete ⟨grammar, recorded choose, .all⟩ patience tree ⟨chooser, []⟩ []
    run.ending = .failed cause → Fault generator grammar tree run cause := by
  intro run failed
  cases complete_fails failed with
  | @unknown final _ later _ symbol reaches frontier unknown steps seen =>
    have initial := Frontier.initial grammar tree (generator.maxSteps.getD patience)
      (⟨chooser, []⟩ : Recorded σ) ([] : List Report)
    have extended := initial.extension reaches
    obtain ⟨-, -, latest⟩ := initial.invariant Reported.progress (Reported.initial tree _ _) reaches
    have first := frontier.firstUnknown?_yield unknown
    rw [extended.firstUnknown?_yield] at first
    rw [← steps, ← seen] at latest
    obtain ⟨parts, grafted, begins⟩ := extended
    have tokens := grafted.tokens_eq.2
    rw [← Tree.yield_eq_tokens, frontier.yield] at tokens
    obtain ⟨done, later, rfl, derives⟩ := Grammar.exists_split_of_tokens begins tokens.symm
      (List.forall_mem_map.mpr frontier.terminal) unknown
    exact .unknownSymbol first latest grafted derives
  | declined declined =>
    obtain ⟨symbol, before, answer, rfl, nonTerminal, asked, unusable⟩ := declined
    obtain ⟨rfl, after⟩ := Prod.mk.inj asked
    exact .emptyRuleSet nonTerminal (congrArg Recorded.answers after.symm) unusable
  | exceeded exceeded =>
    obtain ⟨limit, symbol, limited, rfl⟩ := exceeded
    exact .stepLimitExceeded limited

/-- A run ends in the same way if all its reports are kept and its chooser is recorded. -/
theorem complete_ending_told {ω : Type} (generator : Generator) (grammar : Grammar)
    (choose : Chooser σ) (watch : Watcher ω) (patience : Nat) (tree : Tree) (chooser : σ) (seen : ω) :
    (generator.complete ⟨grammar, choose, watch⟩ patience tree chooser seen).ending =
      (generator.complete ⟨grammar, recorded choose, .all⟩ patience tree ⟨chooser, []⟩ []).ending := by
  have unrecorded := complete_carry (Setting.carries_unrecorded grammar choose .all) generator patience
    tree ⟨chooser, []⟩ []
  rw [(complete_watched generator grammar choose watch .all patience tree chooser seen []).1]
  exact congrArg Run.ending unrecorded

theorem complete_ne_finished {symbol : Symbol} (generator : Generator) (setting : Setting σ ω)
    (patience : Nat) (chooser : σ) (seen : ω)
    (unknown : setting.grammar.firstUnknown? tree.yield = some symbol) (done : Tree) :
    (generator.complete setting patience tree chooser seen).ending ≠ .finished done := by
  intro finished
  obtain ⟨extended, terminal⟩ := extends_of_finished finished
  have known : setting.grammar.firstUnknown? done.yield = none :=
    Grammar.firstUnknown?_eq_none_iff.mpr fun token found => .inl (terminal token found)
  rw [extended.firstUnknown?_yield, unknown] at known
  cases known

theorem complete_unknownSymbol {symbol : Symbol} (generator : Generator) (grammar : Grammar)
    (choose : Chooser σ) (patience : Nat) (chooser : σ)
    (unknown : grammar.firstUnknown? tree.yield = some symbol) :
    let run := generator.complete ⟨grammar, recorded choose, .all⟩ patience tree ⟨chooser, []⟩ []
    run.chooser.InRange → run.ending ≠ .interrupted →
      (∀ cause, generator.Exceeded cause → run.ending ≠ .failed cause) →
        run.ending = .failed (.unknownSymbol symbol) := by
  intro run inRange waited within
  cases ending : run.ending with
  | finished done =>
    exact absurd ending (complete_ne_finished generator _ patience _ _ unknown done)
  | interrupted => exact absurd ending waited
  | failed cause =>
    cases complete_fault generator grammar choose patience tree chooser ending with
    | unknownSymbol first =>
      rw [unknown] at first
      rw [Option.some.inj first]
    | emptyRuleSet nonTerminal asked unusable =>
      obtain ⟨index, less, answered⟩ := inRange _ (asked ▸ List.mem_cons_self)
      exact absurd (unusable index answered) (Nat.not_le_of_lt less)
    | @stepLimitExceeded limit symbol limited =>
      exact absurd ending (within _ ⟨limit, symbol, limited, rfl⟩)

/-- The chooser is recorded to tell the last question from the earlier ones. -/
theorem generate_fails_uniform {τ : Type} (generator : Generator) (grammar : Grammar) (watch : Watcher ω)
    (patience : Nat) (seen : ω) (draw : Uniform.Draw τ) (tries : Nat) (source : τ) :
    let grown := generator.generate ⟨grammar, Uniform.choose draw tries, watch⟩ patience source seen
    let told := generator.generate ⟨grammar, recorded (Uniform.choose draw tries), .all⟩ patience
      ⟨source, []⟩ []
    grown.ending = .failed cause → generator.Exceeded cause ∨
      ∃ (symbol : Symbol) (before : Recorded τ), cause = .emptyRuleSet symbol ∧
        grammar.isNonTerminal symbol = true ∧
        told.chooser.answers = ((Grammar.rulesOf grammar.rules symbol).length, none) :: before.answers ∧
        Uniform.Refused draw (Grammar.rulesOf grammar.rules symbol).length tries before.state
          grown.chooser := by
  intro grown told failed
  have same : grown.ending = told.ending := complete_ending_told generator grammar _ watch patience _ source seen
  have left : grown.chooser = told.chooser.state := by
    have unwatched := complete_watched generator grammar (Uniform.choose draw tries) watch .all patience
      (.leaf grammar.start) source seen []
    exact unwatched.2.2.trans (congrArg Run.chooser
      (generate_recorded generator grammar (Uniform.choose draw tries) .all patience ⟨source, []⟩ []))
  have answers := generate_fails_of_choose
    (fun candidates before after => Uniform.Refused draw candidates tries before.state after.state)
    (fun nonempty chosen => by
      obtain ⟨answered, after⟩ := Prod.mk.inj chosen
      rw [← after]
      exact Uniform.choose_cases nonempty (Prod.ext answered rfl))
    (same ▸ failed)
  refine answers.imp_right ?_
  rintro ⟨symbol, before, named, nonTerminal, asked, refused⟩
  have answered := congrArg Recorded.answers (Prod.mk.inj asked).2
  refine ⟨symbol, before, named, nonTerminal, ?_, left ▸ refused⟩
  rw [← answered, (Prod.mk.inj asked).1]

/-- A run fails for one of three causes. With an unknown symbol in its tree it does not finish, and fails
with the first such symbol if no choice is declined and neither the limit nor the patience is at an end.
A run that grows a tree from the start symbol meets no unknown symbol; with a script it fails only
because of the limit, and so it does with unbiased picks, unless the chooser loses its patience with its last
question: all the words that it draws for that in a row are refused, and with more patience it would still be
drawing. -/
theorem complete_failures {ω : Type} (generator : Generator) (grammar : Grammar) (choose : Chooser σ)
    (watch : Watcher ω) (patience : Nat) (tree : Tree) (chooser : σ) (seen : ω) :
    let run := generator.complete ⟨grammar, choose, watch⟩ patience tree chooser seen
    let told := generator.complete ⟨grammar, recorded choose, .all⟩ patience tree ⟨chooser, []⟩ []
    (∀ cause, run.ending = .failed cause → Fault generator grammar tree told cause) ∧
      (∀ symbol, grammar.firstUnknown? tree.yield = some symbol →
        (∀ done, run.ending ≠ .finished done) ∧
          (told.chooser.InRange → run.ending ≠ .interrupted →
            (∀ cause, generator.Exceeded cause → run.ending ≠ .failed cause) →
              run.ending = .failed (.unknownSymbol symbol))) ∧
      (∀ symbol, (generator.generate ⟨grammar, choose, watch⟩ patience chooser seen).ending ≠
        .failed (.unknownSymbol symbol)) ∧
      (∀ script cause, (generator.generate ⟨grammar, Script.choose, watch⟩ patience script seen).ending =
        .failed cause → generator.Exceeded cause) ∧
      ∀ {τ : Type} (draw : Uniform.Draw τ) (tries : Nat) (source : τ),
        let grown := generator.generate ⟨grammar, Uniform.choose draw tries, watch⟩ patience source seen
        let grownTold := generator.generate ⟨grammar, recorded (Uniform.choose draw tries), .all⟩ patience
          ⟨source, []⟩ []
        ∀ cause, grown.ending = .failed cause → generator.Exceeded cause ∨
          ∃ (symbol : Symbol) (before : Recorded τ), cause = .emptyRuleSet symbol ∧
            grammar.isNonTerminal symbol = true ∧
            grownTold.chooser.answers =
              ((Grammar.rulesOf grammar.rules symbol).length, none) :: before.answers ∧
            Uniform.Refused draw (Grammar.rulesOf grammar.rules symbol).length tries before.state
              grown.chooser := by
  intro run told
  have same : run.ending = told.ending :=
    complete_ending_told generator grammar choose watch patience tree chooser seen
  refine ⟨?_, fun symbol unknown => ⟨?_, ?_⟩, ?_, ?_, ?_⟩
  · intro cause failed
    exact complete_fault generator grammar choose patience tree chooser (same ▸ failed)
  · exact complete_ne_finished generator ⟨grammar, choose, watch⟩ patience chooser seen unknown
  · rw [same]
    exact complete_unknownSymbol generator grammar choose patience chooser unknown
  · intro symbol failed
    rcases generate_fails failed with ⟨_, _, _, other⟩ | ⟨_, _, _, other, _⟩ <;> cases other
  · intro script cause failed
    have answers := generate_fails_of_choose (fun _ _ _ => False)
      (fun nonempty chosen => .inl (Script.exists_lt_of_choose nonempty chosen)) failed
    simpa using answers
  · intro τ draw tries source grown grownTold cause failed
    exact generate_fails_uniform generator grammar watch patience seen draw tries source failed

theorem complete_failures_names :
    let tree : Tree := .node "?" [.leaf "N", .leaf "Z", .leaf "Y"]
    let run := (Generator.mk (some 9)).complete ⟨.names, Script.choose, fun _ _ => ()⟩ 0 tree
      (.ofList [0]) ()
    let told := (Generator.mk (some 9)).complete ⟨.names, recorded Script.choose, .all⟩ 0 tree
      ⟨.ofList [0], []⟩ []
    run.ending = .failed (.unknownSymbol "Z") ∧
      Fault ⟨some 9⟩ .names tree told (.unknownSymbol "Z") := by
  intro tree run told
  have ending : run.ending = .failed (.unknownSymbol "Z") := by cbv
  obtain ⟨fault, _⟩ := complete_failures ⟨some 9⟩ .names Script.choose (fun _ _ => ()) 0 tree
    (.ofList [0]) ()
  exact ⟨ending, fault _ ending⟩

end Generator

end SentenceSampler
