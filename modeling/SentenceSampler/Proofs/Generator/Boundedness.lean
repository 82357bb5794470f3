import SentenceSampler.Proofs.Expansion.Stalls
import SentenceSampler.Proofs.Generator.Grown

/-!
Grammars whose runs are bounded. Main statement: some limit is never exceeded exactly if no symbol within
reach leads back to itself; otherwise every limit is exceeded by some script.
-/
namespace SentenceSampler.Generator

open Chooser (Answers Recorded recorded)
open Expansion

variable {σ ω : Type} {grammar : Grammar} {limit : Nat}

/-- Whatever the chooser answers, no tree that is grown from the start symbol exceeds the limit. -/
def Suffices (limit : Nat) (grammar : Grammar) : Prop :=
  ∀ {σ ω : Type} (choose : Chooser σ) (watch : Watcher ω) (patience : Nat) (chooser : σ) (seen : ω)
    (exceeded : Nat) (symbol : Symbol),
    ((Generator.mk (some limit)).generate ⟨grammar, choose, watch⟩ patience chooser seen).ending ≠
      .failed (.stepLimitExceeded exceeded symbol)

/-- The picks of the script are all within the number of candidates, and with them a tree that is grown
from the start symbol exceeds the limit, whoever watches. -/
def Exceeds (script : List Nat) (limit : Nat) (grammar : Grammar) : Prop :=
  ∀ {ω : Type} (watch : Watcher ω) (patience : Nat) (seen : ω),
    let run := (Generator.mk (some limit)).generate ⟨grammar, recorded Script.choose, watch⟩ patience
      ⟨.ofList script, []⟩ seen
    run.chooser.InRange ∧ ∃ symbol, run.ending = .failed (.stepLimitExceeded limit symbol)

theorem exists_derivation_of_exceeded {setting : Setting σ ω} {patience exceeded : Nat} {chooser : σ}
    {seen : ω} {symbol : Symbol}
    (ending : ((Generator.mk (some limit)).generate setting patience chooser seen).ending =
      .failed (.stepLimitExceeded exceeded symbol)) :
    ∃ tree : Tree, setting.grammar.Begins tree ∧ tree.label = setting.grammar.start ∧
      tree.innerCount = limit := by
  have generated := run_generated setting limit chooser seen
  simp only [generate, complete, Option.getD_some] at ending
  generalize run setting _ = outcome at ending generated
  cases generated with
  | finished => cases ending
  | outOfAllowance root begins size => exact ⟨_, begins, root, size⟩
  | declined => cases ending

theorem suffices_of_bounds {bound : Nat} (bounds : grammar.Bounds bound grammar.start) :
    Suffices (bound + 1) grammar := by
  intro σ ω choose watch patience chooser seen exceeded symbol ending
  obtain ⟨tree, begins, root, size⟩ := exists_derivation_of_exceeded ending
  have most := bounds tree begins root
  omega

theorem exists_exceeds (endless : grammar.Endless grammar.start) (limit : Nat) :
    ∃ script, Exceeds script limit grammar := by
  have endures : Endures grammar [grammar.start] := by
    refine ⟨?_, grammar.start, List.mem_singleton_self _, endless⟩
    simpa using grammar.knows_start
  obtain ⟨calls, stalls⟩ := endures.exists_stalls limit
  obtain ⟨_, answers⟩ := Script.answers_ofList stalls.inRange
  obtain ⟨last, kept⟩ := answers.record []
  have inRange : last.InRange := kept.inRange stalls.inRange (by simp [Recorded.InRange])
  refine ⟨calls.map Prod.snd, ?_⟩
  intro ω watch patience seen run
  let setting : Setting (Recorded Script) _ := ⟨grammar, recorded Script.choose, watch⟩
  have frontier : Frontier setting.grammar _ [] _ := Frontier.initial grammar (.leaf grammar.start)
    limit (⟨.ofList (calls.map Prod.snd), []⟩ : Recorded Script) seen
  obtain ⟨symbol, spent, left⟩ := stalls.run frontier rfl rfl kept
  have chooser : run.chooser = last := left
  have ending : run.ending = .failed (.stepLimitExceeded limit symbol) := by
    simp only [run, generate, complete, Option.getD_some]
    rw [spent]
    rfl
  exact ⟨chooser ▸ inRange, symbol, ending⟩

/-- Runs are bounded exactly for grammars without a recursion within reach: some limit is never exceeded
if and only if no non-terminal that can be reached leads back to itself. With such a recursion every limit
is exceeded, and by picks that are all within the number of candidates. -/
theorem generate_bounded_iff (grammar : Grammar) :
    ((∃ limit, Suffices limit grammar) ↔ ¬ grammar.Recursive) ∧
      (grammar.Recursive → ∀ limit, ∃ script, Exceeds script limit grammar) := by
  refine ⟨⟨?_, ?_⟩, fun recursive limit => exists_exceeds recursive.endless limit⟩
  · rintro ⟨limit, enough⟩ recursive
    obtain ⟨script, exceeds⟩ := exists_exceeds recursive.endless limit
    obtain ⟨_, symbol, ending⟩ := exceeds (fun _ _ => ()) 0 ()
    exact enough _ _ _ _ _ _ _ ending
  · intro acyclic
    obtain ⟨bound, bounds⟩ := Grammar.exists_bounds_start acyclic
    exact ⟨bound + 1, suffices_of_bounds bounds⟩

theorem generate_bounded_iff_names :
    Grammar.names.Recursive ∧ ¬ ∃ limit, Suffices limit .names := by
  have again : Grammar.names.Leads "N" "N" :=
    ⟨⟨"N", ["N", "&", "N"]⟩, by decide, rfl, by decide⟩
  have recursive : Grammar.names.Recursive := ⟨"N", by decide, .refl, .single again⟩
  exact ⟨recursive, fun bounded => (generate_bounded_iff .names).1.mp bounded recursive⟩

end SentenceSampler.Generator
