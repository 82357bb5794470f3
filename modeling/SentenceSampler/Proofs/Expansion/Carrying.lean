import SentenceSampler.Chooser.Any
import SentenceSampler.Generator
import SentenceSampler.Proofs.Expansion.Shift

/-!
Settings that differ in their choosers and watchers. Main statement: where these are images of the ones
of another setting, so is every run. So nobody who watches, no record that is kept and no kind of
chooser that shows only when the program runs has an influence on it.
-/
namespace SentenceSampler

namespace Expansion

variable {σ σ' ω ω' : Type} {onChooser : σ → σ'} {onSeen : ω → ω'}
variable {setting : Setting σ ω} {image : Setting σ' ω'}

/-- A setting whose chooser and watcher do to the images what those of another one do. -/
structure Setting.Carries (onChooser : σ → σ') (onSeen : ω → ω') (setting : Setting σ ω)
    (image : Setting σ' ω') : Prop where
  grammar : image.grammar = setting.grammar
  choose (candidates : Nat) (chooser : σ) :
    image.choose candidates (onChooser chooser) =
      (setting.choose candidates chooser).map id onChooser
  watch (report : Report) (seen : ω) :
    image.watch report (onSeen seen) = onSeen (setting.watch report seen)

def State.carry (onChooser : σ → σ') (onSeen : ω → ω') (state : State σ ω) : State σ' ω' :=
  { state with chooser := onChooser state.chooser, seen := onSeen state.seen }

theorem Setting.Carries.respects (carries : setting.Carries onChooser onSeen image) :
    Shift.Respects ⟨onChooser, onSeen, 0, 0⟩ setting image where
  grammar := carries.grammar
  choose := carries.choose
  watch := carries.watch

/-- The run in the other setting ends for the same reason, in the image of the last state. -/
theorem run_carry (carries : setting.Carries onChooser onSeen image) (state : State σ ω) :
    run image (state.carry onChooser onSeen) =
      ⟨(run setting state).stop, (run setting state).last.carry onChooser onSeen⟩ :=
  run_shift carries.respects state (.inl rfl)

/-- A setting in which nobody watches. -/
def Setting.unwatched (grammar : Grammar) (choose : Chooser σ) : Setting σ Unit :=
  ⟨grammar, choose, fun _ _ => ()⟩

theorem Setting.carries_unwatched (setting : Setting σ ω) :
    setting.Carries id (fun _ => ()) (.unwatched setting.grammar setting.choose) where
  grammar := rfl
  choose _ _ := rfl
  watch _ _ := rfl

theorem Setting.carries_unrecorded (grammar : Grammar) (choose : Chooser σ) (watch : Watcher ω) :
    Setting.Carries Chooser.Recorded.state id ⟨grammar, Chooser.recorded choose, watch⟩
      ⟨grammar, choose, watch⟩ where
  grammar := rfl
  choose _ _ := rfl
  watch _ _ := rfl

end Expansion

open Expansion (Setting)

namespace AnyChooser

variable {σ ω : Type} {kind : σ → AnyChooser} {choose : Chooser σ}

/-- A kind of chooser answers as its own chooser does, and it stays of that kind. -/
structure Dispatches (kind : σ → AnyChooser) (choose : Chooser σ) : Prop where
  choose_eq (candidates : Nat) (state : σ) :
    AnyChooser.choose candidates (kind state) = (choose candidates state).map id kind

theorem dispatches_script : Dispatches .script Script.choose := ⟨fun _ _ => rfl⟩

theorem dispatches_seeded : Dispatches .seeded (Uniform.choose Keystream.draw patience) :=
  ⟨fun _ _ => rfl⟩

theorem dispatches_words : Dispatches .words (Uniform.choose Uniform.Cycle.draw patience) :=
  ⟨fun _ _ => rfl⟩

theorem dispatches_dictated :
    Dispatches .dictated (fun _ answers => (answers.head?.join, answers.tail)) where
  choose_eq _ answers := by cases answers <;> rfl

theorem Dispatches.carries (dispatches : Dispatches kind choose) (grammar : Grammar)
    (watch : Watcher ω) :
    Setting.Carries kind id ⟨grammar, choose, watch⟩ ⟨grammar, AnyChooser.choose, watch⟩ where
  grammar := rfl
  choose := dispatches.choose_eq
  watch _ _ := rfl

end AnyChooser

namespace Generator

variable {σ σ' ω ω' : Type}

def Run.carry (onChooser : σ → σ') (onSeen : ω → ω') (run : Run σ ω) : Run σ' ω' :=
  { run with chooser := onChooser run.chooser, seen := onSeen run.seen }

theorem complete_carry {onChooser : σ → σ'} {onSeen : ω → ω'} {setting : Setting σ ω}
    {image : Setting σ' ω'} (carries : setting.Carries onChooser onSeen image)
    (generator : Generator) (patience : Nat) (tree : Tree) (chooser : σ) (seen : ω) :
    generator.complete image patience tree (onChooser chooser) (onSeen seen) =
      (generator.complete setting patience tree chooser seen).carry onChooser onSeen := by
  have same : Expansion.run image (.initial tree (generator.maxSteps.getD patience)
      (onChooser chooser) (onSeen seen)) = _ :=
    Expansion.run_carry carries (.initial tree (generator.maxSteps.getD patience) chooser seen)
  rw [complete, same]
  rfl

theorem complete_watched {ω ω' : Type} (generator : Generator) (grammar : Grammar)
    (choose : Chooser σ) (watch : Watcher ω) (watch' : Watcher ω') (patience : Nat) (tree : Tree)
    (chooser : σ) (seen : ω) (seen' : ω') :
    let run := generator.complete ⟨grammar, choose, watch⟩ patience tree chooser seen
    let run' := generator.complete ⟨grammar, choose, watch'⟩ patience tree chooser seen'
    run.ending = run'.ending ∧ run.steps = run'.steps ∧ run.chooser = run'.chooser := by
  intro run run'
  have unseen : run.carry id (fun _ => ()) = run'.carry id (fun _ => ()) :=
    (complete_carry (Setting.carries_unwatched ⟨grammar, choose, watch⟩) generator patience tree
      chooser seen).symm.trans
      (complete_carry (Setting.carries_unwatched ⟨grammar, choose, watch'⟩) generator patience tree
        chooser seen')
  exact ⟨congrArg Run.ending unseen, congrArg Run.steps unseen, congrArg Run.chooser unseen⟩

theorem generate_recorded (generator : Generator) (grammar : Grammar) (choose : Chooser σ)
    (watch : Watcher ω) (patience : Nat) (record : Chooser.Recorded σ) (seen : ω) :
    generator.generate ⟨grammar, choose, watch⟩ patience record.state seen =
      (generator.generate ⟨grammar, Chooser.recorded choose, watch⟩ patience record seen).carry
        Chooser.Recorded.state id :=
  complete_carry (Setting.carries_unrecorded grammar choose watch) generator patience _ record seen

theorem complete_dispatched {kind : σ → AnyChooser} {choose : Chooser σ}
    (dispatches : AnyChooser.Dispatches kind choose) (generator : Generator) (grammar : Grammar)
    (watch : Watcher ω) (patience : Nat) (tree : Tree) (chooser : σ) (seen : ω) :
    generator.complete ⟨grammar, AnyChooser.choose, watch⟩ patience tree (kind chooser) seen =
      (generator.complete ⟨grammar, choose, watch⟩ patience tree chooser seen).carry kind id :=
  complete_carry (dispatches.carries grammar watch) generator patience tree chooser seen

end Generator

end SentenceSampler
