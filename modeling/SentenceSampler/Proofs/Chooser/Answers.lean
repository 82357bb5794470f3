import Mathlib.Data.List.Forall2
import SentenceSampler.Chooser.Any

/-!
Choosers that are asked again and again. Main statements: a script within the numbers of candidates
answers exactly its picks, a record tells what was answered, and an unbiased chooser answers with the
index of a candidate, unless it has lost its patience with words that are all refused.
-/
namespace SentenceSampler

namespace Chooser

variable {σ : Type} {choose : Chooser σ} {chooser middle last : σ} {first second : List (Nat × Nat)}

/-- Asked with the first components, one after the other, a chooser answers with the second ones. -/
inductive Answers (choose : Chooser σ) : σ → List (Nat × Nat) → σ → Prop where
  | nil {chooser : σ} : Answers choose chooser [] chooser
  | cons {candidates index : Nat} {chooser next last : σ} {calls : List (Nat × Nat)}
      (answer : choose candidates chooser = (some index, next))
      (later : Answers choose next calls last) :
      Answers choose chooser ((candidates, index) :: calls) last

theorem Answers.append (earlier : Answers choose chooser first middle)
    (later : Answers choose middle second last) :
    Answers choose chooser (first ++ second) last := by
  induction earlier with
  | nil => exact later
  | cons answer _ ih => exact .cons answer (ih later)

theorem Answers.split (whole : Answers choose chooser (first ++ second) last) :
    ∃ middle, Answers choose chooser first middle ∧ Answers choose middle second last := by
  induction first generalizing chooser with
  | nil => exact ⟨chooser, .nil, whole⟩
  | cons call calls ih =>
    cases whole with
    | cons answer later =>
      obtain ⟨middle, earlier, rest⟩ := ih later
      exact ⟨middle, .cons answer earlier, rest⟩

/-- The numbers of candidates that were put to a chooser, in order. -/
def Recorded.calls (record : Recorded σ) : List Nat := record.answers.reverse.map Prod.fst

/-- Whatever a chooser answers, it answers also while a record is kept. -/
theorem Answers.record {calls : List (Nat × Nat)} (answers : Answers choose chooser calls last)
    (earlier : List (Nat × Option Nat)) :
    ∃ final, Answers (recorded choose) ⟨chooser, earlier⟩ calls final := by
  induction answers generalizing earlier with
  | nil => exact ⟨_, .nil⟩
  | @cons candidates index _ _ _ _ answer _ ih =>
    obtain ⟨final, later⟩ := ih ((candidates, some index) :: earlier)
    exact ⟨final, .cons (by simp [recorded, answer]) later⟩

theorem Answers.recorded {record final : Recorded σ} {calls : List (Nat × Nat)}
    (answers : Answers (recorded choose) record calls final) :
    Answers choose record.state calls final.state ∧
      final.calls = record.calls ++ calls.map Prod.fst ∧
      final.picks = record.picks ++ calls.map Prod.snd := by
  induction answers with
  | nil => exact ⟨.nil, by simp, by simp⟩
  | @cons candidates index record next final calls answer _ ih =>
    obtain ⟨later, asked, picked⟩ := ih
    have same : (choose candidates record.state).1 = some index := congrArg Prod.fst answer
    have state : next = ⟨(choose candidates record.state).2,
        (candidates, (choose candidates record.state).1) :: record.answers⟩ :=
      (congrArg Prod.snd answer).symm
    subst state
    refine ⟨.cons (Prod.ext same rfl) later, ?_, ?_⟩
    · rw [asked]
      simp [Recorded.calls]
    · rw [picked]
      simp [Recorded.picks, same]

/-- Every answer was the index of one of the candidates. -/
def Recorded.InRange (record : Recorded σ) : Prop :=
  ∀ call ∈ record.answers, ∃ index < call.1, call.2 = some index

theorem Recorded.InRange.usable {candidates : Nat} {record after : Recorded σ} {answer : Option Nat}
    (inRange : after.InRange) (asked : recorded choose candidates record = (answer, after)) :
    ∃ index < candidates, answer = some index := by
  obtain ⟨rfl, rfl⟩ := Prod.mk.inj asked
  exact inRange _ List.mem_cons_self

theorem Answers.inRange {record final : Recorded σ} {calls : List (Nat × Nat)}
    (answers : Answers (Chooser.recorded choose) record calls final)
    (within : ∀ call ∈ calls, call.2 < call.1) (earlier : record.InRange) : final.InRange := by
  induction answers with
  | nil => exact earlier
  | @cons candidates index record next final calls answer _ ih =>
    obtain ⟨same, rfl⟩ := Prod.mk.inj answer
    refine ih (fun call member => within call (List.mem_cons_of_mem _ member)) ?_
    intro call member
    rcases List.mem_cons.mp member with rfl | member
    · exact ⟨index, within (candidates, index) List.mem_cons_self, same⟩
    · exact earlier call member

end Chooser

namespace Script

open Chooser (Answers)

theorem exists_lt_of_choose {candidates : Nat} {script last : Script} {answer : Option Nat}
    (nonempty : candidates ≠ 0) (chosen : choose candidates script = (answer, last)) :
    ∃ index < candidates, answer = some index := by
  rw [choose, if_neg nonempty] at chosen
  exact ⟨_, Nat.mod_lt _ (Nat.pos_of_ne_zero nonempty), (congrArg Prod.fst chosen).symm⟩

theorem next_append (before later : List Nat) (pick : Nat) :
    (⟨(before ++ pick :: later).toArray, before.length⟩ : Script).next = pick := by
  have within : before.length % (before.length + (later.length + 1)) = before.length :=
    Nat.mod_eq_of_lt (by omega)
  simp [next, within]

theorem choose_append (before later : List Nat) {pick candidates : Nat} (within : pick < candidates) :
    choose candidates ⟨(before ++ pick :: later).toArray, before.length⟩ =
      (some pick, ⟨(before ++ [pick] ++ later).toArray, (before ++ [pick]).length⟩) := by
  have some : candidates ≠ 0 := by omega
  simp [choose, some, next_append, Nat.mod_eq_of_lt within]

theorem answers_of_lt (before : List Nat) {calls : List (Nat × Nat)}
    (inRange : ∀ call ∈ calls, call.2 < call.1) :
    Answers choose ⟨(before ++ calls.map Prod.snd).toArray, before.length⟩ calls
      ⟨(before ++ calls.map Prod.snd).toArray, before.length + calls.length⟩ := by
  induction calls generalizing before with
  | nil => exact .nil
  | cons call calls ih =>
    obtain ⟨candidates, index⟩ := call
    have within : index < candidates := inRange (candidates, index) (by simp)
    have later := ih (before ++ [index]) fun call member => inRange call (by simp [member])
    refine .cons (choose_append before (calls.map Prod.snd) within) ?_
    simpa [Nat.add_comm, Nat.add_left_comm] using later

theorem answers_ofList {calls : List (Nat × Nat)} (inRange : ∀ call ∈ calls, call.2 < call.1) :
    ∃ last, Answers choose (.ofList (calls.map Prod.snd)) calls last :=
  ⟨_, answers_of_lt [] inRange⟩

theorem picks_of_answers (before : List Nat) {picks : List Nat} {calls : List (Nat × Nat)}
    {last : Script}
    (answers : Answers choose ⟨(before ++ picks).toArray, before.length⟩ calls last)
    (inRange : List.Forall₂ (· < ·) picks (calls.map Prod.fst)) : picks = calls.map Prod.snd := by
  induction calls generalizing before picks with
  | nil => exact List.forall₂_nil_right_iff.mp inRange
  | cons call calls ih =>
    obtain ⟨pick, later, within, others, rfl⟩ := List.forall₂_cons_right_iff.mp inRange
    cases answers with
    | cons answer answers =>
      rw [choose_append before later within] at answer
      obtain ⟨same, rfl⟩ := Prod.mk.inj answer
      obtain rfl := Option.some.inj same
      rw [ih (before ++ [pick]) answers others]
      rfl

end Script

namespace Uniform

variable {σ : Type} {draw : Draw σ} {candidates patience : Nat} {state last : σ} {answer : Option Nat}

theorem lt_of_pick? {word : UInt64} {index : Nat} (nonempty : candidates ≠ 0)
    (picked : pick? candidates word = some index) : index < candidates := by
  obtain ⟨-, rfl⟩ : word.toNat * candidates % UInt64.size ≤ zone candidates ∧
      word.toNat * candidates / UInt64.size = index := by
    simpa [pick?] using picked
  rw [Nat.div_lt_iff_lt_mul (by decide), Nat.mul_comm]
  exact Nat.mul_lt_mul_of_pos_left word.toNat_lt_size (Nat.pos_of_ne_zero nonempty)

/-- So many words in a row, none of which is used. -/
inductive Refused (draw : Draw σ) (candidates : Nat) : Nat → σ → σ → Prop where
  | nil {state : σ} : Refused draw candidates 0 state state
  | word {count : Nat} {state last : σ} (refused : pick? candidates (draw state).1 = none)
      (later : Refused draw candidates count (draw state).2 last) :
      Refused draw candidates (count + 1) state last

theorem drawPick_cases (nonempty : candidates ≠ 0)
    (drawn : drawPick draw candidates patience state = (answer, last)) :
    (∃ index < candidates, answer = some index) ∨
      answer = none ∧ Refused draw candidates patience state last := by
  induction patience generalizing state with
  | zero =>
    obtain ⟨rfl, rfl⟩ := Prod.mk.inj drawn
    exact .inr ⟨rfl, .nil⟩
  | succ patience ih =>
    cases picked : pick? candidates (draw state).1 with
    | some index =>
      simp only [drawPick, picked] at drawn
      obtain ⟨rfl, rfl⟩ := Prod.mk.inj drawn
      exact .inl ⟨index, lt_of_pick? nonempty picked, rfl⟩
    | none =>
      simp only [drawPick, picked] at drawn
      exact (ih drawn).imp_right fun ⟨declined, later⟩ => ⟨declined, .word picked later⟩

theorem choose_cases (nonempty : candidates ≠ 0)
    (chosen : choose draw patience candidates state = (answer, last)) :
    (∃ index < candidates, answer = some index) ∨
      answer = none ∧ Refused draw candidates patience state last := by
  rw [choose, if_neg nonempty] at chosen
  exact drawPick_cases nonempty chosen

end Uniform

end SentenceSampler
