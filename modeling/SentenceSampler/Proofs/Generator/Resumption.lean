import SentenceSampler.Proofs.Generator.Limit

/-!
Runs that are cut and resumed. Main statement: a run that starts afresh at any state which another one
comes by, with what is left of the limit, is the rest of that other run.
-/
namespace SentenceSampler

open Expansion

/-- A report as it stands in a run with some expansions before it. -/
def Report.raised (steps : Nat) (report : Report) : Report :=
  { report with step := report.step + steps }

namespace Generator

/-- The same generator with what is left of its limit after some expansions. -/
def lowered (steps : Nat) (generator : Generator) : Generator :=
  ⟨generator.maxSteps.map (· - steps)⟩

/-- The same ending under a limit that is higher by some steps. -/
def Ending.raised (steps : Nat) : Ending → Ending
  | .failed (.stepLimitExceeded limit symbol) => .failed (.stepLimitExceeded (limit + steps) symbol)
  | ending => ending

/-- A run is the rest of another one that made some expansions before. -/
structure Run.IsRest {σ : Type} (rest : Run σ (List Report)) (before : Nat)
    (run : Run σ (List Report)) : Prop where
  ending : run.ending = rest.ending.raised before
  steps : run.steps = rest.steps + before
  chooser : run.chooser = rest.chooser
  seen : run.seen.drop before = rest.seen.map (.raised before)

theorem Ending.raised_ofStop {steps : Nat} {maxSteps : Option Nat} {tree : Tree} {stop : Option Stop}
    (within : steps ≤ maxSteps.getD steps)
    (other : ∀ limit symbol, stop ≠ some (.failed (.stepLimitExceeded limit symbol))) :
    (ofStop (maxSteps.map (· - steps)) tree stop).raised steps = ofStop maxSteps tree stop := by
  rcases stop with _ | ⟨symbol⟩ | ⟨cause⟩
  · rfl
  · cases maxSteps with
    | none => rfl
    | some limit =>
      have same : limit - steps + steps = limit := Nat.sub_add_cancel within
      simp [ofStop, raised, same]
  · cases cause with
    | stepLimitExceeded limit symbol => exact absurd rfl (other limit symbol)
    | _ => rfl

end Generator

namespace Expansion

variable {σ : Type} {grammar : Grammar} {choose : Chooser σ}

/-- Some reports stand before those of a run. -/
def Shift.behind (σ : Type) (earlier : List Report) : Shift σ (List Report) σ (List Report) where
  onChooser := id
  onSeen seen := earlier ++ seen.map (.raised earlier.length)
  steps := earlier.length
  allowance := 0

theorem Shift.respects_behind (setting : Setting σ (List Report)) (all : setting.watch = .all)
    (earlier : List Report) : (Shift.behind σ earlier).Respects setting setting where
  grammar := rfl
  choose _ _ := rfl
  watch report seen := by simp [Shift.behind, Report.raised, all, Watcher.all]

theorem Frontier.reaches_pass {ω : Type} {setting : Setting σ ω} {state : State σ ω}
    {done later : List (Address × String)} (passed : List (Address × String))
    (frontier : Frontier setting.grammar state done (passed ++ later))
    (terminal : ∀ leaf ∈ passed, setting.grammar.isTerminal leaf.2 = true) :
    Reaches setting state { state with pending := later.map Prod.fst } := by
  induction passed generalizing state done with
  | nil =>
    have same : state.pending = later.map Prod.fst := frontier.pending
    rw [← same]
    exact .start
  | cons leaf passed ih =>
    have own := terminal leaf (by simp)
    have moved : advance setting state =
        .moved { state with pending := (passed ++ later).map Prod.fst } :=
      frontier.advance_eq (.passed own)
    have rest := ih (frontier.pass own) fun other member => terminal other (by simp [member])
    exact (Reaches.start.move moved).trans rest

/-- A run goes on from a frontier as a fresh one on its tree, behind the reports so far. -/
theorem Frontier.run_eq_behind {setting : Setting σ (List Report)} {state : State σ (List Report)}
    {done later : List (Address × String)} (all : setting.watch = .all)
    (frontier : Frontier setting.grammar state done later)
    (counted : state.seen.length = state.steps) :
    let fresh := Expansion.run setting (.initial state.tree state.allowance state.chooser [])
    Expansion.run setting state = ⟨fresh.stop, fresh.last.shift (.behind σ state.seen)⟩ := by
  intro fresh
  let start : State σ (List Report) := .initial state.tree state.allowance state.chooser []
  have leaves : start.tree.leaves = done ++ later := frontier.leaves
  have first : Frontier setting.grammar start [] (done ++ later) :=
    leaves ▸ Frontier.initial setting.grammar state.tree state.allowance state.chooser []
  have passed := first.reaches_pass done frontier.terminal
  have same : ({ start with pending := later.map Prod.fst } : State σ (List Report)).shift
      (.behind σ state.seen) = state := by
    simp [State.shift, Shift.behind, start, State.initial, counted, ← frontier.pending]
  have goes := run_shift (Shift.respects_behind setting all state.seen)
    { start with pending := later.map Prod.fst } (.inl rfl)
  rw [same, ← passed.run_eq] at goes
  exact goes

theorem Frontier.exists_steps {ω : Type} {setting : Setting σ ω} {start state : State σ ω}
    {done later : List (Address × String)} (frontier : Frontier setting.grammar start done later)
    (reaches : Reaches setting start state) {steps : Nat} (least : start.steps ≤ steps)
    (most : steps ≤ state.steps) : ∃ cut, Reaches setting start cut ∧ cut.steps = steps := by
  induction reaches with
  | start => exact ⟨start, .start, Nat.le_antisymm least most⟩
  | @move state next earlier moved ih =>
    obtain ⟨_, _, before⟩ := frontier.reaches earlier
    obtain ⟨progress, _⟩ := before.progress moved
    by_cases sooner : steps ≤ state.steps
    · exact ih sooner
    · cases progress with
      | passed pending => exact absurd most sooner
      | expanded pending filled terminal allowed asked chosen =>
        have last : state.steps + 1 = steps := Nat.le_antisymm (Nat.lt_of_not_le sooner) most
        exact ⟨_, earlier.move moved, last⟩

end Expansion

namespace Generator

variable {σ : Type}

/-- From every state that a run comes by, a fresh run within what is left is the rest of it. -/
theorem complete_isRest (generator : Generator) (grammar : Grammar) (choose : Chooser σ)
    (patience : Nat) (tree : Tree) (chooser : σ) {cut : State σ (List Report)} :
    let setting : Setting σ (List Report) := ⟨grammar, choose, .all⟩
    let start := State.initial tree (generator.maxSteps.getD patience) chooser []
    let run := generator.complete setting patience tree chooser []
    Reaches setting start cut →
      (Report.trees tree run.seen)[cut.steps]? = some cut.tree ∧
        ((generator.lowered cut.steps).complete setting (patience - cut.steps) cut.tree
          cut.chooser []).IsRest cut.steps run := by
  intro setting start run reached
  have frontier : Frontier setting.grammar start [] tree.leaves := Frontier.initial _ _ _ _ _
  have reported : Reported tree (generator.maxSteps.getD patience) start :=
    Reported.initial tree _ chooser
  obtain ⟨done, later, cutFrontier⟩ := frontier.reaches reached
  obtain ⟨length, total, last⟩ := frontier.invariant Reported.progress reported reached
  let fresh := Expansion.run setting (.initial cut.tree cut.allowance cut.chooser [])
  have goes : Expansion.run setting start = ⟨fresh.stop, fresh.last.shift (.behind σ cut.seen)⟩ := by
    rw [reached.run_eq]
    exact cutFrontier.run_eq_behind rfl length
  have left : (generator.lowered cut.steps).maxSteps.getD (patience - cut.steps) =
      cut.allowance := by
    cases limited : generator.maxSteps <;> simp [lowered, limited] at total ⊢ <;> omega
  have resumed : (generator.lowered cut.steps).complete setting (patience - cut.steps) cut.tree
      cut.chooser [] = ⟨.ofStop (generator.lowered cut.steps).maxSteps fresh.last.tree fresh.stop,
        fresh.last.steps, fresh.last.chooser, fresh.last.seen⟩ := by
    rw [complete, left]
  have whole : run = ⟨.ofStop generator.maxSteps fresh.last.tree fresh.stop,
      fresh.last.steps + cut.steps, fresh.last.chooser,
      cut.seen ++ fresh.last.seen.map (.raised cut.steps)⟩ := by
    have ran : run = ⟨.ofStop generator.maxSteps (Expansion.run setting start).last.tree
        (Expansion.run setting start).stop, (Expansion.run setting start).last.steps,
        (Expansion.run setting start).last.chooser, (Expansion.run setting start).last.seen⟩ := rfl
    rw [ran, goes]
    simp [State.shift, Shift.behind, length]
  have within : cut.steps ≤ generator.maxSteps.getD cut.steps := by
    cases limited : generator.maxSteps with
    | none => exact Nat.le_refl _
    | some limit =>
      rw [limited] at total
      exact total ▸ Nat.le_add_right _ _
  have other (limit : Nat) (symbol : Symbol) :
      fresh.stop ≠ some (.failed (.stepLimitExceeded limit symbol)) := by
    obtain ⟨_, _, _, _, _, halt⟩ := frontier.exists_halt
    rw [goes] at halt
    exact halt.not_exceeded limit symbol
  rw [resumed, whole]
  refine ⟨Report.trees_append last _, ?_, rfl, rfl, ?_⟩
  · exact (Ending.raised_ofStop within other).symm
  · rw [← length, List.drop_left]

/-- Wherever a run is cut, after however many expansions, what it comes to is what a fresh run on the
tree and with the chooser of that moment comes to within the rest of the limit: the same tree or failure,
the same chooser, and the reports that were still to come. Without a limit the fresh run needs no more
patience than was left, and any more makes no difference unless the first run was interrupted. -/
theorem complete_resumed (generator : Generator) (grammar : Grammar) (choose : Chooser σ)
    (patience : Nat) (tree : Tree) (chooser : σ) :
    let setting : Setting σ (List Report) := ⟨grammar, choose, .all⟩
    let start := State.initial tree (generator.maxSteps.getD patience) chooser []
    let run := generator.complete setting patience tree chooser []
    (∀ steps ≤ run.steps, ∃ cut, Reaches setting start cut ∧ cut.steps = steps) ∧
      ∀ cut, Reaches setting start cut →
        (Report.trees tree run.seen)[cut.steps]? = some cut.tree ∧
          ∀ left, (left = patience - cut.steps ∨
              run.ending ≠ .interrupted ∧ patience - cut.steps ≤ left) →
            ((generator.lowered cut.steps).complete setting left cut.tree cut.chooser []).IsRest
              cut.steps run := by
  intro setting start run
  have frontier : Frontier setting.grammar start [] tree.leaves := Frontier.initial _ _ _ _ _
  refine ⟨?_, ?_⟩
  · obtain ⟨final, _, _, reaches, _, halt⟩ := frontier.exists_halt
    have counted : run.steps = final.steps := halt.last_eq.2.1
    intro steps within
    exact frontier.exists_steps reaches (Nat.zero_le steps) (counted ▸ within)
  · intro cut reached
    obtain ⟨last, rest⟩ :=
      complete_isRest generator grammar choose patience tree chooser reached
    refine ⟨last, ?_⟩
    rintro left (rfl | ⟨ended, enough⟩)
    · exact rest
    · have own : ((generator.lowered cut.steps).complete setting (patience - cut.steps) cut.tree
          cut.chooser []).ending ≠ .interrupted := by
        intro interrupted
        have ending := rest.ending
        rw [interrupted] at ending
        exact ended ending
      rw [complete_patience enough own]
      exact rest

end Generator

end SentenceSampler
