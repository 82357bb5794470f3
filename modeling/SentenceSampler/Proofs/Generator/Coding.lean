import SentenceSampler.Proofs.Generator.Recursion
import SentenceSampler.Proofs.Growth.Coding

/-!
Scripts that generate a given tree. Main statement: every complete derivation tree has one, with a pick
for every node with children, and where the rules are distinct it has no other.
-/
namespace SentenceSampler.Generator

open Chooser (Answers Recorded recorded)
open Expansion (Setting)

/-- A script within the numbers of candidates, from which a generator takes every pick and returns
the tree. -/
structure Codes (generator : Generator) (grammar : Grammar) (patience : Nat) (script : List Nat)
    (tree : Tree) : Prop where
  finished : (generator.generate (.unwatched grammar Script.choose) patience
    (.ofList script) ()).ending = .finished tree
  made : (generator.generate (.unwatched grammar Script.choose) patience
    (.ofList script) ()).chooser.made = script.length
  inRange : List.Forall₂ (· < ·) script (generator.generate
    (.unwatched grammar (recorded Script.choose)) patience ⟨.ofList script, []⟩ ()).chooser.calls

variable {σ ω : Type} {generator : Generator} {patience : Nat} {tree : Tree} {chooser last : σ}

theorem generate_of_answers (setting : Setting σ ω) (seen : ω)
    (root : tree.label = setting.grammar.start)
    (derives : setting.grammar.Derives tree)
    (answers : Answers setting.choose chooser (setting.grammar.calls tree) last)
    (enough : tree.innerCount ≤ generator.maxSteps.getD patience) :
    let run := generator.generate setting patience chooser seen
    run.ending = .finished tree ∧ run.chooser = last := by
  intro run
  obtain ⟨applied, _, grown⟩ := Growth.follows derives answers enough
  obtain ⟨left, finished⟩ := generator.complete_growth setting patience
    (.leaf setting.grammar.start) chooser seen
  rw [← root, grown] at left finished
  have ending : (generator.complete setting patience (.leaf tree.label) chooser seen).ending =
      .finished tree := (finished tree).mpr rfl
  rw [root] at left ending
  exact ⟨ending, left⟩

theorem answers_of_generate (setting : Setting σ ω) (seen : ω)
    (distinct : setting.grammar.rules.Nodup)
    (derives : setting.grammar.Derives tree)
    (finished : (generator.generate setting patience chooser seen).ending = .finished tree) :
    Answers setting.choose chooser (setting.grammar.calls tree)
      (generator.generate setting patience chooser seen).chooser := by
  obtain ⟨left, grown⟩ := generator.complete_growth setting patience
    (.leaf setting.grammar.start) chooser seen
  obtain ⟨_, answers⟩ := Growth.tells distinct derives ((grown tree).mp finished)
  rw [← left] at answers
  exact answers

/-- The picks of a derivation tree, as a script, make a generator return it. -/
theorem codes_calls {grammar : Grammar} (root : tree.label = grammar.start)
    (derives : grammar.Derives tree) (enough : tree.innerCount ≤ generator.maxSteps.getD patience) :
    generator.Codes grammar patience ((grammar.calls tree).map Prod.snd) tree := by
  let script := (grammar.calls tree).map Prod.snd
  have inRange := Grammar.calls_lt derives
  have answers : Answers Script.choose (.ofList script) (grammar.calls tree)
      ⟨script.toArray, 0 + (grammar.calls tree).length⟩ := Script.answers_of_lt [] inRange
  obtain ⟨final, kept⟩ := answers.record []
  obtain ⟨_, calls, _⟩ := kept.recorded
  obtain ⟨finished, left⟩ :=
    generate_of_answers (.unwatched grammar Script.choose) () root derives answers enough
  obtain ⟨_, leftRecorded⟩ :=
    generate_of_answers (.unwatched grammar (recorded Script.choose)) () root derives kept enough
  refine ⟨finished, ?_, ?_⟩
  · rw [left]
    simp
  · rw [leftRecorded, calls]
    simpa [Recorded.calls, List.forall₂_map_left_iff, List.forall₂_map_right_iff, List.forall₂_same]
      using inRange

theorem picks_of_generate {grammar : Grammar} {choose : Chooser σ} {watch : Watcher ω} {seen : ω}
    (distinct : grammar.rules.Nodup) (derives : grammar.Derives tree)
    (finished : (generator.generate ⟨grammar, recorded choose, watch⟩ patience ⟨chooser, []⟩
      seen).ending = .finished tree) :
    (generator.generate ⟨grammar, recorded choose, watch⟩ patience ⟨chooser, []⟩
      seen).chooser.picks = (grammar.calls tree).map Prod.snd := by
  have answers := answers_of_generate ⟨grammar, recorded choose, watch⟩ seen distinct derives finished
  obtain ⟨_, _, picked⟩ := answers.recorded
  simpa [Recorded.picks] using picked

/-- Where the rules are distinct, no other script makes a generator return a tree. -/
theorem Codes.eq_calls {grammar : Grammar} {script : List Nat} (distinct : grammar.rules.Nodup)
    (derives : grammar.Derives tree) (codes : generator.Codes grammar patience script tree) :
    script = (grammar.calls tree).map Prod.snd := by
  have finished : (generator.generate (.unwatched grammar (recorded Script.choose)) patience
      ⟨.ofList script, []⟩ ()).ending = .finished tree := by
    have same := generate_recorded generator grammar Script.choose (fun _ _ => ()) patience
      ⟨.ofList script, []⟩ ()
    exact (congrArg Run.ending same).symm.trans codes.finished
  have answers : Answers (recorded Script.choose) ⟨.ofList script, []⟩ (grammar.calls tree) _ :=
    answers_of_generate (.unwatched grammar (recorded Script.choose)) () distinct derives finished
  obtain ⟨plain, calls, _⟩ := answers.recorded
  have inRange := codes.inRange
  rw [calls] at inRange
  exact Script.picks_of_answers [] plain inRange

/-- Every complete derivation tree has a script with a pick for every node with children, from which a
generator returns it whatever the limit, as long as it allows so many expansions. Where the rules are
distinct it is the only one, and all choosers that generate the tree make the picks of the script. -/
theorem generate_coding {grammar : Grammar} {tree : Tree} (root : tree.label = grammar.start)
    (derives : grammar.Derives tree) :
    ∃ script : List Nat, script.length = tree.innerCount ∧
      (∀ (generator : Generator) (patience : Nat),
        tree.innerCount ≤ generator.maxSteps.getD patience →
          generator.Codes grammar patience script tree) ∧
      (grammar.rules.Nodup →
        (∀ (generator : Generator) (patience : Nat) (other : List Nat),
          generator.Codes grammar patience other tree → other = script) ∧
        ∀ {σ ω : Type} (generator : Generator) (choose : Chooser σ) (watch : Watcher ω)
          (patience : Nat) (chooser : σ) (seen : ω),
          let run := generator.generate ⟨grammar, recorded choose, watch⟩ patience ⟨chooser, []⟩ seen
          run.ending = .finished tree → run.chooser.picks = script) := by
  refine ⟨(grammar.calls tree).map Prod.snd, ?_, ?_, fun distinct => ⟨?_, ?_⟩⟩
  · rw [List.length_map, grammar.calls_length]
  · intro generator patience enough
    exact codes_calls root derives enough
  · intro generator patience other codes
    exact codes.eq_calls distinct derives
  · intro σ ω generator choose watch patience chooser seen run finished
    exact picks_of_generate distinct derives finished

theorem generate_coding_pair :
    Tree.pair.label = "N" ∧ Grammar.names.Derives .pair ∧ Grammar.names.rules.Nodup ∧
      ∀ other, (Generator.mk (some 3)).Codes .names 0 other .pair ↔ other = [1, 0, 0] := by
  have derives := Grammar.names_derives_pair
  have distinct : Grammar.names.rules.Nodup := by decide
  obtain ⟨script, _, _, unique⟩ := generate_coding rfl derives
  have coded : (Generator.mk (some 3)).Codes .names 0 [1, 0, 0] .pair := by
    refine ⟨by cbv, by cbv, ?_⟩
    have calls : ((Generator.mk (some 3)).generate (.unwatched .names (recorded Script.choose)) 0
      ⟨.ofList [1, 0, 0], []⟩ ()).chooser.calls = [2, 2, 2] := by cbv
    rw [calls]
    simp
  obtain rfl := (unique distinct).1 _ _ _ coded
  refine ⟨rfl, derives, distinct, fun other => ⟨?_, ?_⟩⟩
  · exact (unique distinct).1 _ _ other
  · rintro rfl
    exact coded

end SentenceSampler.Generator
