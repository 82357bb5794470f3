import Mathlib.Data.List.Basic
import SentenceSampler.Chooser.Any

/-!
Choosers that are asked with any numbers of candidates, none included. Main statement: the turns of a script
go round and round its picks, and a call without candidates takes no turn.
-/
namespace SentenceSampler

namespace Chooser

variable {σ : Type}

/-- What a chooser answers when it is asked with one number of candidates after the other, and how it is
left. -/
def replies (choose : Chooser σ) : List Nat → σ → List (Option Nat) × σ
  | [], chooser => ([], chooser)
  | candidates :: later, chooser =>
    let (answer, next) := choose candidates chooser
    let (answers, last) := replies choose later next
    (answer :: answers, last)

theorem replies_cons (choose : Chooser σ) (candidates : Nat) (later : List Nat) (chooser : σ) :
    replies choose (candidates :: later) chooser =
      ((choose candidates chooser).1 :: (replies choose later (choose candidates chooser).2).1,
        (replies choose later (choose candidates chooser).2).2) := rfl

theorem length_replies (choose : Chooser σ) (calls : List Nat) (chooser : σ) :
    (replies choose calls chooser).1.length = calls.length := by
  induction calls generalizing chooser with
  | nil => rfl
  | cons candidates later ih => rw [replies_cons, List.length_cons, List.length_cons, ih]

theorem getElem?_replies (choose : Chooser σ) (calls : List Nat) (chooser : σ) (index : Nat) :
    (replies choose calls chooser).1[index]? =
      calls[index]?.map fun candidates =>
        (choose candidates (replies choose (calls.take index) chooser).2).1 := by
  induction calls generalizing chooser index with
  | nil => rfl
  | cons candidates later ih =>
    cases index with
    | zero => rfl
    | succ index =>
      rw [replies_cons, List.take_succ_cons, replies_cons]
      exact ih (choose candidates chooser).2 index

theorem replies_take_succ (choose : Chooser σ) {calls : List Nat} (chooser : σ) {index candidates : Nat}
    (call : calls[index]? = some candidates) :
    (replies choose (calls.take (index + 1)) chooser).2 =
      (choose candidates (replies choose (calls.take index) chooser).2).2 := by
  induction calls generalizing chooser index with
  | nil => cases call
  | cons first later ih =>
    cases index with
    | zero =>
      obtain rfl := Option.some.inj call
      rfl
    | succ index =>
      rw [List.take_succ_cons, List.take_succ_cons, replies_cons, replies_cons]
      exact ih (choose first chooser).2 call

/-- A chooser that passes over the calls without candidates gives the other answers also without these
calls. -/
theorem replies_filter {choose : Chooser σ} (idle : ∀ chooser, choose 0 chooser = (none, chooser))
    (calls : List Nat) (chooser : σ) :
    replies choose (calls.filter (· ≠ 0)) chooser =
      (((calls.zip (replies choose calls chooser).1).filter fun call => call.1 ≠ 0).map Prod.snd,
        (replies choose calls chooser).2) := by
  induction calls generalizing chooser with
  | nil => rfl
  | cons candidates later ih =>
    by_cases none : candidates = 0
    · subst none
      rw [replies_cons, idle]
      simpa using ih chooser
    · rw [List.filter_cons_of_pos (by simpa using none), replies_cons, replies_cons, ih]
      simp [none]

end Chooser

namespace Script

open Chooser

theorem choose_zero (script : Script) : choose 0 script = (none, script) := rfl

theorem choose_of_ne_zero {candidates : Nat} (some : candidates ≠ 0) (script : Script) :
    choose candidates script =
      (.some (script.next % candidates), { script with made := script.made + 1 }) := if_neg some

/-- The turns go round and round the picks. -/
theorem next_eq (picks : List Nat) (made : Nat) :
    (⟨picks.toArray, made⟩ : Script).next =
      if picks = [] then 0 else picks.getD (made % picks.length) 0 := by
  by_cases empty : picks = []
  · simp [next, empty]
  · simp [next, empty]

theorem replies_snd (calls : List Nat) (script : Script) :
    (replies choose calls script).2 =
      { script with made := script.made + calls.countP (· ≠ 0) } := by
  induction calls generalizing script with
  | nil => rfl
  | cons candidates later ih =>
    rw [replies_cons]
    by_cases none : candidates = 0
    · simp [none, choose_zero, ih]
    · simp [none, choose_of_ne_zero none, ih, Nat.add_assoc, Nat.add_comm 1]

/-- A script is asked with any numbers of candidates. A call without candidates gets no pick and leaves the
script as it is. The other calls take turns: each finds its pick in the script, which is read from the start
again when it runs out, and reduces it to the number of candidates; an empty script picks the first one. As many
turns have been made as there were calls with candidates, and without the other calls the answers would be the
same. -/
theorem replies_of_script (picks calls : List Nat) :
    let run := replies choose calls (.ofList picks)
    let state (index : Nat) := (replies choose (calls.take index) (.ofList picks)).2
    let turns (index : Nat) := (calls.take index).countP (· ≠ 0)
    run.1.length = calls.length ∧
      (∀ index, calls[index]? = some 0 →
        run.1[index]? = some none ∧ state (index + 1) = state index) ∧
      (∀ index candidates, calls[index]? = some candidates → candidates ≠ 0 →
        ∃ pick < candidates, run.1[index]? = some (some pick) ∧
          pick = if picks = [] then 0 else picks.getD (turns index % picks.length) 0 % candidates) ∧
      (∀ index, (state index).made = turns index) ∧
      replies choose (calls.filter (· ≠ 0)) (.ofList picks) =
        (((calls.zip run.1).filter fun call => call.1 ≠ 0).map Prod.snd, run.2) := by
  intro run state turns
  have before (index : Nat) : state index = ⟨picks.toArray, turns index⟩ := by
    simp only [state, turns, replies_snd, ofList, Nat.zero_add]
  refine ⟨length_replies choose calls _, ?_, ?_, fun index => by rw [before],
    replies_filter choose_zero calls _⟩
  · intro index call
    refine ⟨?_, replies_take_succ choose _ call⟩
    rw [getElem?_replies, call]
    rfl
  · intro index candidates call nonempty
    have answer : run.1[index]? = some (some ((state index).next % candidates)) := by
      rw [getElem?_replies, call, Option.map_some, choose_of_ne_zero nonempty]
    rw [before, next_eq] at answer
    refine ⟨_, Nat.mod_lt _ (Nat.pos_of_ne_zero nonempty), answer, ?_⟩
    split
    · exact Nat.zero_mod candidates
    · rfl

/-- The third call takes the second turn, and the fourth call the first pick again. -/
theorem replies_of_script_round :
    let run := replies choose [3, 0, 4, 2] (.ofList [1, 7])
    run.1[1]? = some none ∧ run.1[2]? = some (some (7 % 4)) ∧ run.1[3]? = some (some (1 % 2)) ∧
      (replies choose ([3, 0, 4, 2].take 2) (.ofList [1, 7])).2.made = 1 := by
  obtain ⟨-, idle, pick, made, -⟩ := replies_of_script [1, 7] [3, 0, 4, 2]
  obtain ⟨third, -, found, rfl⟩ := pick 2 4 rfl (by decide)
  obtain ⟨fourth, -, again, rfl⟩ := pick 3 2 rfl (by decide)
  exact ⟨(idle 1 rfl).1, found, again, made 2⟩

end Script

end SentenceSampler
