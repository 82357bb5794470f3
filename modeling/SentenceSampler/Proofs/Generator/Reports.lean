import SentenceSampler.Proofs.Generator.Leftmost

/-!
What the reports of a run keep of it. Main statement: at every state that a run comes by, the reports so
far are as many as the expansions, and the tree is that of the last one.
-/
namespace SentenceSampler

/-- The trees that a run comes by: the one it starts with, and the one of every report. -/
def Report.trees (start : Tree) (reports : List Report) : List Tree :=
  start :: reports.map Report.tree

theorem Report.trees_append {start tree : Tree} {reports : List Report} {index : Nat}
    (found : (trees start reports)[index]? = some tree) (later : List Report) :
    (trees start (reports ++ later))[index]? = some tree := by
  have within : index < (trees start reports).length := (List.getElem?_eq_some_iff.mp found).1
  have split : trees start (reports ++ later) = trees start reports ++ later.map Report.tree := by
    simp [trees]
  rw [split, List.getElem?_append_left within, found]

namespace Expansion

variable {σ : Type} {grammar : Grammar} {choose : Chooser σ} {state next : State σ (List Report)}
variable {tree : Tree} {allowance : Nat}

/-- The reports, the number of expansions and the allowance of a run that started with a tree and an
allowance. -/
structure Reported (tree : Tree) (allowance : Nat) (state : State σ (List Report)) : Prop where
  length : state.seen.length = state.steps
  total : state.steps + state.allowance = allowance
  last : (Report.trees tree state.seen)[state.steps]? = some state.tree

theorem Reported.initial (tree : Tree) (allowance : Nat) (chooser : σ) :
    Reported tree allowance (State.initial tree allowance chooser []) where
  length := rfl
  total := Nat.zero_add allowance
  last := rfl

theorem Reported.progress (progress : Progress ⟨grammar, choose, .all⟩ state next)
    (reported : Reported tree allowance state) : Reported tree allowance next := by
  obtain ⟨length, total, last⟩ := reported
  have same := progress.total.trans total
  cases progress with
  | passed pending => exact ⟨length, same, last⟩
  | expanded pending filled terminal allowed asked chosen =>
    refine ⟨?_, same, ?_⟩
    · simp [State.apply, Watcher.all, length]
    · simp [State.apply, Watcher.all, Report.trees, length]

theorem Frontier.seen_prefix {setting : Setting σ (List Report)} {done later : List (Address × String)}
    (all : setting.watch = .all) (frontier : Frontier setting.grammar state done later) :
    state.seen <+: (Expansion.run setting state).last.seen := by
  have kept {middle following : State σ (List Report)}
      (progress : Progress setting middle following) (held : state.seen <+: middle.seen) :
      state.seen <+: following.seen := by
    cases progress with
    | passed pending => exact held
    | expanded =>
      rw [State.apply, all]
      exact held.trans (List.prefix_append _ _)
  obtain ⟨final, _, _, reaches, _, halt⟩ := frontier.exists_halt
  rw [halt.last_eq.2.2]
  exact frontier.invariant kept (List.prefix_refl _) reaches

end Expansion

end SentenceSampler
