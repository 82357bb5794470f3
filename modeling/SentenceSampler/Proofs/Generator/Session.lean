import SentenceSampler.Proofs.Expansion.Carrying
import SentenceSampler.Proofs.Expansion.Replay
import SentenceSampler.Proofs.Generator.Leftmost

/-!
Sessions: runs one after the other with one chooser for all of them. Main statement: a session in which no
choice is declined is replayed by the script of its picks.
-/
namespace SentenceSampler.Generator

open Chooser (Answers Recorded recorded)
open Expansion

/-- What something that is done with a chooser shows, and what it leaves of the chooser. -/
structure Played (α σ : Type) where
  shown : α
  chooser : σ

/-- The same without the record of the chooser. -/
def Played.unrecorded {α σ : Type} (played : Played α (Recorded σ)) : Played α σ :=
  ⟨played.shown, played.chooser.state⟩

/-- Something that can be done with a chooser of any kind. -/
abbrev Play (α : Type) := {σ : Type} → Chooser σ → σ → Played α σ

/-- A run that is to be made. -/
structure Job where
  generator : Generator
  grammar : Grammar
  tree : Tree

/-- What a run shows, whoever makes its choices: how it ends, and what is reported of it. -/
structure Shown where
  ending : Ending
  reports : List Report

def Job.play (patience : Nat) (job : Job) : Play Shown := fun choose chooser =>
  let run := job.generator.complete ⟨job.grammar, choose, .all⟩ patience job.tree chooser []
  ⟨⟨run.ending, run.seen⟩, run.chooser⟩

/-- Every run goes on with the chooser that the one before it has left, however that one ended. -/
def session (patience : Nat) : List Job → Play (List Shown)
  | [], _, _, chooser => ⟨[], chooser⟩
  | job :: later, _, choose, chooser =>
    let first := job.play patience choose chooser
    let rest := session patience later choose first.chooser
    ⟨first.shown :: rest.shown, rest.chooser⟩

/-- The choices that are made in a play, each behind its number of candidates. Whoever makes them lets the
play show the same. -/
structure Steered {α σ : Type} (play : Play α) (choose : Chooser σ) (chooser : σ)
    (calls : List (Nat × Nat)) : Prop where
  answers : Answers choose chooser calls (play choose chooser).chooser
  inRange : ∀ call ∈ calls, call.2 < call.1
  replay {σ' : Type} {choose' : Chooser σ'} {chooser' last : σ'}
    (answers : Answers choose' chooser' calls last) :
    play choose' chooser' = ⟨(play choose chooser).shown, last⟩

variable {σ : Type} {choose : Chooser σ} {patience : Nat} {chooser : σ} {calls : List (Nat × Nat)}

/-- The script of the picks replays a play, and is read to its end. -/
theorem Steered.replay_picks {α : Type} {play : Play α}
    (steered : Steered play (recorded choose) ⟨chooser, []⟩ calls) :
    let picks := (play (recorded choose) ⟨chooser, []⟩).chooser.picks
    play Script.choose (.ofList picks) =
      ⟨(play (recorded choose) ⟨chooser, []⟩).shown, ⟨picks.toArray, picks.length⟩⟩ := by
  intro picks
  obtain ⟨_, _, picked⟩ := steered.answers.recorded
  have same : picks = calls.map Prod.snd := picked.trans (List.nil_append _)
  have answers := Script.answers_of_lt [] steered.inRange
  have replayed := steered.replay answers
  simpa [same, Script.ofList] using replayed

theorem Job.exists_steered (job : Job) (choose : Chooser σ) (chooser : σ)
    (answered : ∀ symbol,
      (job.play patience choose chooser).shown.ending ≠ .failed (.emptyRuleSet symbol)) :
    ∃ calls, Steered (job.play patience) choose chooser calls := by
  let setting : Setting σ (List Report) := ⟨job.grammar, choose, .all⟩
  let start : State σ (List Report) :=
    .initial job.tree (job.generator.maxSteps.getD patience) chooser []
  have frontier : Frontier setting.grammar start [] job.tree.leaves := Frontier.initial _ _ _ _ _
  obtain ⟨calls, steers⟩ := frontier.exists_steers fun symbol declined => answered symbol <| by
    simp only [Job.play, complete]
    rw [declined]
    rfl
  refine ⟨calls, steers.answers, steers.inRange, fun {_ choose' chooser' last} answers => ?_⟩
  have same : Expansion.run ⟨job.grammar, choose', .all⟩
      (.initial job.tree (job.generator.maxSteps.getD patience) chooser' []) = _ :=
    steers.replay answers
  simp only [Job.play, complete, same]
  rfl

theorem exists_steered (jobs : List Job) (choose : Chooser σ) (chooser : σ)
    (answered : ∀ shown ∈ (session patience jobs choose chooser).shown, ∀ symbol,
      shown.ending ≠ .failed (.emptyRuleSet symbol)) :
    ∃ calls, Steered (session patience jobs) choose chooser calls := by
  induction jobs generalizing chooser with
  | nil =>
    refine ⟨[], .nil, by simp, fun answers => ?_⟩
    cases answers
    rfl
  | cons job later ih =>
    obtain ⟨calls, own⟩ := job.exists_steered choose chooser (answered _ List.mem_cons_self)
    obtain ⟨others, rest⟩ := ih (job.play patience choose chooser).chooser
      fun shown member => answered shown (List.mem_cons_of_mem _ member)
    refine ⟨calls ++ others, own.answers.append rest.answers, ?_, fun {_ _ _ _} answers => ?_⟩
    · intro call member
      rcases List.mem_append.mp member with first | second
      · exact own.inRange call first
      · exact rest.inRange call second
    · obtain ⟨middle, first, second⟩ := answers.split
      simp only [session, own.replay first, rest.replay second]

theorem Job.play_recorded (job : Job) (choose : Chooser σ) (record : Recorded σ) :
    job.play patience choose record.state =
      (job.play patience (recorded choose) record).unrecorded := by
  have same := complete_carry (Setting.carries_unrecorded job.grammar choose .all) job.generator
    patience job.tree record []
  simp only [id] at same
  simp only [Job.play, same]
  rfl

theorem session_recorded (jobs : List Job) (choose : Chooser σ) (record : Recorded σ) :
    session patience jobs choose record.state =
      (session patience jobs (recorded choose) record).unrecorded := by
  induction jobs generalizing record with
  | nil => rfl
  | cons job later ih =>
    simp only [session, job.play_recorded choose record, Played.unrecorded, ih]

/-- A session in which no choice is declined is replayed by the script of its picks: run by run it ends in
the same way with the same reports, and in the end the script has been read exactly once. -/
theorem session_replay (patience : Nat) (jobs : List Job) (choose : Chooser σ) (chooser : σ)
    (answered : ∀ shown ∈ (session patience jobs choose chooser).shown, ∀ symbol,
      shown.ending ≠ .failed (.emptyRuleSet symbol)) :
    let picks := (session patience jobs (recorded choose) ⟨chooser, []⟩).chooser.picks
    let replayed := session patience jobs Script.choose (.ofList picks)
    replayed.shown = (session patience jobs choose chooser).shown ∧
      replayed.chooser.made = picks.length := by
  intro picks replayed
  have same : session patience jobs choose chooser =
      (session patience jobs (recorded choose) ⟨chooser, []⟩).unrecorded :=
    session_recorded jobs choose ⟨chooser, []⟩
  have shown : (session patience jobs choose chooser).shown =
      (session patience jobs (recorded choose) ⟨chooser, []⟩).shown := congrArg Played.shown same
  obtain ⟨calls, steered⟩ := exists_steered jobs (recorded choose) ⟨chooser, []⟩ (shown ▸ answered)
  have whole : replayed = _ := steered.replay_picks
  rw [whole, shown]
  exact ⟨rfl, rfl⟩

/-- A leaf that is a terminal, a name that is grown from it, and names that may not be grown any more. -/
def Job.names : List Job :=
  [⟨⟨some 0⟩, .names, .leaf "x"⟩, ⟨⟨some 3⟩, .names, .leaf "N"⟩,
    ⟨⟨some 1⟩, .names, .node "?" [.leaf "N", .leaf "N"]⟩]

/-- The script `[3, 2, 4]` is read with the remainders by two, and once more from its start. -/
theorem session_replay_names :
    let endings : List Ending :=
      [.finished (.leaf "x"), .finished .pair, .failed (.stepLimitExceeded 1 "N")]
    (session 0 Job.names Script.choose (.ofList [3, 2, 4])).shown.map Shown.ending = endings ∧
      (session 0 Job.names Script.choose (.ofList [1, 0, 0, 1])).shown.map Shown.ending = endings := by
  intro endings
  have shown : (session 0 Job.names Script.choose (.ofList [3, 2, 4])).shown.map Shown.ending =
      endings := by cbv
  have asked : (session 0 Job.names (recorded Script.choose) ⟨.ofList [3, 2, 4], []⟩).chooser.answers =
      [(2, some 1), (2, some 0), (2, some 0), (2, some 1)] := by cbv
  have picked : (session 0 Job.names (recorded Script.choose) ⟨.ofList [3, 2, 4], []⟩).chooser.picks =
      [1, 0, 0, 1] := by
    rw [Recorded.picks, asked]
    rfl
  have answered : ∀ shown ∈ (session 0 Job.names Script.choose (.ofList [3, 2, 4])).shown,
      ∀ symbol, shown.ending ≠ .failed (.emptyRuleSet symbol) := by
    intro other member symbol declined
    have among := List.mem_map_of_mem (f := Shown.ending) member
    rw [shown, declined] at among
    simp [endings] at among
  obtain ⟨same, _⟩ := session_replay 0 Job.names Script.choose (.ofList [3, 2, 4]) answered
  rw [picked] at same
  exact ⟨shown, by rw [same, shown]⟩

end SentenceSampler.Generator
