import SentenceSampler.Command.Sampling
import SentenceSampler.Proofs.Expansion.Carrying

/-!
Samples of one grammar, one after the other. Main statements: their endings do not depend on who watches;
they go on until there are enough of them or one does not finish; and fewer samples are the first ones of more.
-/
namespace SentenceSampler

open Expansion (Setting)
open Generator (Ending Run)

/-- A tree has been grown to its end. -/
def Generator.Ending.Finished (ending : Ending) : Prop := ∃ tree, ending = .finished tree

/-- What is asked of a generator again and again: a tree for a grammar, with the choices of a chooser. -/
structure Sampler (σ : Type) where
  generator : Generator
  grammar : Grammar
  choose : Chooser σ
  patience : Nat

namespace Sampler

variable {σ ω : Type}

/-- One sample, which nobody watches. -/
def sample (sampler : Sampler σ) (chooser : σ) : Run σ Unit :=
  sampler.generator.generate (.unwatched sampler.grammar sampler.choose) sampler.patience chooser ()

/-- One sample that somebody watches. -/
def watched (sampler : Sampler σ) (watch : Watcher ω) (blank : ω) (chooser : σ) : Run σ ω :=
  sampler.generator.generate ⟨sampler.grammar, sampler.choose, watch⟩ sampler.patience chooser blank

/-- Samples that somebody watches, up to the first that does not finish. -/
def series (sampler : Sampler σ) (watch : Watcher ω) (blank : ω) (count : Nat) (chooser : σ) :
    List (Run σ ω) :=
  Command.series sampler.generator ⟨sampler.grammar, sampler.choose, watch⟩ sampler.patience blank count
    chooser

variable {sampler : Sampler σ} {watch : Watcher ω} {blank : ω} {chooser : σ} {count : Nat}

theorem watched_sample (sampler : Sampler σ) (watch : Watcher ω) (blank : ω) (chooser : σ) :
    (sampler.watched watch blank chooser).ending = (sampler.sample chooser).ending ∧
      (sampler.watched watch blank chooser).chooser = (sampler.sample chooser).chooser := by
  have same : sampler.sample chooser = (sampler.watched watch blank chooser).carry id fun _ => () :=
    Generator.complete_carry (Setting.carries_unwatched ⟨sampler.grammar, sampler.choose, watch⟩)
      sampler.generator sampler.patience (.leaf sampler.grammar.start) chooser blank
  rw [same]
  exact ⟨rfl, rfl⟩

/-! One more sample -/

theorem series_of_finished {tree : Tree} (finished : (sampler.sample chooser).ending = .finished tree) :
    sampler.series watch blank (count + 1) chooser =
      sampler.watched watch blank chooser ::
        sampler.series watch blank count (sampler.sample chooser).chooser := by
  obtain ⟨ending, left⟩ := sampler.watched_sample watch blank chooser
  have own : (sampler.generator.generate ⟨sampler.grammar, sampler.choose, watch⟩ sampler.patience chooser
      blank).ending = .finished tree := ending.trans finished
  rw [series, Command.series]
  simp only [own]
  rw [← left]
  rfl

theorem series_of_unfinished (unfinished : ¬ (sampler.sample chooser).ending.Finished) :
    sampler.series watch blank (count + 1) chooser = [sampler.watched watch blank chooser] := by
  rw [← (sampler.watched_sample watch blank chooser).1] at unfinished
  rw [series, Command.series]
  split
  · rename_i tree finished
    exact absurd ⟨tree, finished⟩ unfinished
  · rfl

/-! All samples -/

/-- How samples come to an end: there are enough of them, or the next one does not finish. -/
inductive Ends (sampler : Sampler σ) (trees : List Tree) (last : σ) (count : Nat) : List Ending → Prop
  | enough (length : trees.length = count) : Ends sampler trees last count (trees.map .finished)
  | unfinished (fewer : trees.length < count) (fails : ¬ (sampler.sample last).ending.Finished) :
      Ends sampler trees last count (trees.map .finished ++ [(sampler.sample last).ending])

theorem series_watched {ω' : Type} (sampler : Sampler σ) (watch : Watcher ω) (blank : ω)
    (watch' : Watcher ω') (blank' : ω') (count : Nat) (chooser : σ) :
    (sampler.series watch blank count chooser).map Run.ending =
      (sampler.series watch' blank' count chooser).map Run.ending := by
  induction count generalizing chooser with
  | zero => rfl
  | succ count ih =>
    have one := (sampler.watched_sample watch blank chooser).1
    have other := (sampler.watched_sample watch' blank' chooser).1
    by_cases finishes : (sampler.sample chooser).ending.Finished
    · obtain ⟨tree, finished⟩ := finishes
      rw [series_of_finished finished, series_of_finished finished, List.map_cons, List.map_cons, one, other,
        ih]
    · rw [series_of_unfinished finishes, series_of_unfinished finishes, List.map_singleton,
        List.map_singleton, one, other]

/-- Fewer samples are the first ones of more, and all of them where one does not finish. -/
theorem series_le {fewer more : Nat} (le : fewer ≤ more) (watch : Watcher ω) (blank : ω) (chooser : σ) :
    sampler.series watch blank fewer chooser <+: sampler.series watch blank more chooser ∧
      ((∃ run ∈ sampler.series watch blank fewer chooser, ¬ run.ending.Finished) →
        sampler.series watch blank fewer chooser = sampler.series watch blank more chooser) := by
  induction fewer generalizing more chooser with
  | zero => exact ⟨List.nil_prefix, by rintro ⟨run, member, -⟩; cases member⟩
  | succ fewer ih =>
    obtain ⟨more, rfl⟩ := Nat.exists_eq_add_one_of_ne_zero (Nat.ne_zero_of_lt le)
    obtain ⟨ending, -⟩ := sampler.watched_sample watch blank chooser
    by_cases finishes : (sampler.sample chooser).ending.Finished
    · obtain ⟨tree, finished⟩ := finishes
      obtain ⟨first, all⟩ := ih (Nat.le_of_succ_le_succ le) (sampler.sample chooser).chooser
      rw [series_of_finished finished, series_of_finished finished]
      refine ⟨List.cons_prefix_cons.mpr ⟨rfl, first⟩, ?_⟩
      rintro ⟨run, member, unfinished⟩
      rcases List.mem_cons.mp member with rfl | later
      · exact absurd ⟨tree, ending.trans finished⟩ unfinished
      · rw [all ⟨run, later, unfinished⟩]
    · rw [series_of_unfinished finishes, series_of_unfinished finishes]
      exact ⟨List.prefix_refl _, fun _ => rfl⟩

end Sampler

end SentenceSampler
