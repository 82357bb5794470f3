import SentenceSampler.Proofs.Expansion.Move

/-!
Runs that differ in what surrounds them: the chooser, what was seen before, the number of expansions
before, and the number of expansions that are still allowed. Main statement: such runs come by the same
trees and end in the same way, unless the one with less allowance runs out of it.
-/
namespace SentenceSampler.Expansion

variable {σ σ' ω ω' : Type} {setting : Setting σ ω} {image : Setting σ' ω'}

/-- How the surroundings of one run become those of another. -/
structure Shift (σ ω σ' ω' : Type) where
  onChooser : σ → σ'
  onSeen : ω → ω'
  steps : Nat
  allowance : Nat

def State.shift (shift : Shift σ ω σ' ω') (state : State σ ω) : State σ' ω' where
  tree := state.tree
  pending := state.pending
  steps := state.steps + shift.steps
  allowance := state.allowance + shift.allowance
  chooser := shift.onChooser state.chooser
  seen := shift.onSeen state.seen

def Move.map (change : State σ ω → State σ' ω') : Move σ ω → Move σ' ω'
  | .finished last => .finished (change last)
  | .moved next => .moved (change next)
  | .stopped cause last => .stopped cause (change last)

/-- The chooser and the watcher of the other setting do after the shift what those of the first do
before it. -/
structure Shift.Respects (shift : Shift σ ω σ' ω') (setting : Setting σ ω)
    (image : Setting σ' ω') : Prop where
  grammar : image.grammar = setting.grammar
  choose (candidates : Nat) (chooser : σ) :
    image.choose candidates (shift.onChooser chooser) =
      (setting.choose candidates chooser).map id shift.onChooser
  watch (report : Report) (seen : ω) :
    image.watch { report with step := report.step + shift.steps } (shift.onSeen seen) =
      shift.onSeen (setting.watch report seen)

variable {shift : Shift σ ω σ' ω'} {start state : State σ ω}

theorem apply_shift (respects : shift.Respects setting image) (allowed : 0 < state.allowance)
    (address : Address) (pending : List Address) (rule : Rule) (chooser : σ) :
    (state.shift shift).apply image.watch address pending rule (shift.onChooser chooser) =
      (state.apply setting.watch address pending rule chooser).shift shift := by
  have steps : state.steps + shift.steps + 1 = state.steps + 1 + shift.steps := by omega
  have allowance :
      state.allowance + shift.allowance - 1 = state.allowance - 1 + shift.allowance := by omega
  simp [State.apply, State.shift, ← respects.watch, steps, allowance]

/-- Every move that is possible before the shift is possible after it, unless it is to stop where more
is allowed now. -/
theorem Turn.shifted {address : Address} {pending : List Address} {symbol : Symbol} {move : Move σ ω}
    (respects : shift.Respects setting image) (turn : Turn setting state address pending symbol move)
    (within : shift.allowance = 0 ∨ move ≠ .stopped (.outOfAllowance symbol) state) :
    Turn image (state.shift shift) address pending symbol (move.map (State.shift shift)) := by
  have asks {candidates : Nat} {answer : Option Nat} {chooser : σ}
      (asked : setting.choose candidates state.chooser = (answer, chooser)) :
      image.choose candidates (state.shift shift).chooser = (answer, shift.onChooser chooser) := by
    rw [State.shift, respects.choose, asked]
    rfl
  obtain ⟨grammar, choose, watch⟩ := image
  obtain rfl : grammar = setting.grammar := respects.grammar
  cases turn with
  | passed terminal => exact .passed terminal
  | unknown notTerminal notNonTerminal => exact .unknown notTerminal notNonTerminal
  | outOfAllowance nonTerminal spent =>
    rcases within with none | stopped
    · exact .outOfAllowance nonTerminal (by simp [State.shift, spent, none])
    · exact absurd rfl stopped
  | declined nonTerminal allowed asked unusable =>
    exact .declined nonTerminal (Nat.add_pos_left allowed _) (asks asked) unusable
  | expanded nonTerminal allowed asked chosen =>
    rw [Move.map, ← apply_shift respects allowed]
    exact .expanded nonTerminal (Nat.add_pos_left allowed _) (asks asked) chosen

theorem advance_shift (respects : shift.Respects setting image) (state : State σ ω)
    (within : shift.allowance = 0 ∨
      ∀ symbol, advance setting state ≠ .stopped (.outOfAllowance symbol) state) :
    advance image (state.shift shift) = (advance setting state).map (State.shift shift) := by
  cases first : state.pending with
  | nil => rw [advance_nil first, advance_nil (by exact first), Move.map]
  | cons address pending =>
    cases found : state.tree.nodeAt? address with
    | none => simp [advance, State.shift, first, found, Move.map]
    | some node =>
      have turn : Turn setting state address pending node.label (advance setting state) :=
        advance_turn first found
      have shifted := turn.shifted respects (within.imp_right fun other => other node.label)
      exact shifted.advance_eq first found

theorem Reaches.shifted (respects : shift.Respects setting image)
    (reaches : Reaches setting start state) :
    Reaches image (start.shift shift) (state.shift shift) := by
  induction reaches with
  | start => exact .start
  | move _ moved ih =>
    refine .move ih ?_
    rw [advance_shift respects _ (.inr (by simp [moved])), moved, Move.map]

/-- A run ends after the shift as before it, unless it ends where more is allowed now. -/
theorem run_shift (respects : shift.Respects setting image) (start : State σ ω)
    (within : shift.allowance = 0 ∨
      ∀ symbol, (run setting start).stop ≠ some (.outOfAllowance symbol)) :
    run image (start.shift shift) =
      ⟨(run setting start).stop, (run setting start).last.shift shift⟩ := by
  obtain ⟨final, reaches, ending⟩ := exists_reaches_ends setting start
  rw [(reaches.shifted respects).run_eq]
  generalize run setting start = outcome at within ending
  cases ending with
  | finished move =>
    apply run_of_finished
    rw [advance_shift respects final (.inr (by simp [move])), move, Move.map]
  | @stopped cause last move =>
    apply run_of_stopped
    have same : shift.allowance = 0 ∨
        ∀ symbol, advance setting final ≠ .stopped (.outOfAllowance symbol) final := by
      refine within.imp_right fun other symbol stopped => other symbol ?_
      rw [move] at stopped
      cases stopped
      rfl
    rw [advance_shift respects final same, move, Move.map]

end SentenceSampler.Expansion
