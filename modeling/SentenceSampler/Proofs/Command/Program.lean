import SentenceSampler.Command.Program
import SentenceSampler.Proofs.Command.Series
import SentenceSampler.Proofs.Grammar

/-!
The program with the files it comes across. Main statement: where one grammar is named, the output and the
exit are those of the samples of that grammar.
-/
namespace SentenceSampler.Command

open Generator (Ending Run)

/-! Screens -/

/-- Screens that differ in their journals at most. -/
structure Screen.Alike (screen other : Screen) : Prop where
  output : screen.output = other.output
  exit : screen.exit = other.exit

theorem Screen.Alike.trans {first second third : Screen} (left : first.Alike second)
    (right : second.Alike third) : first.Alike third :=
  ⟨left.output.trans right.output, left.exit.trans right.exit⟩

theorem Screen.Alike.symm {screen other : Screen} (alike : screen.Alike other) : other.Alike screen :=
  ⟨alike.output.symm, alike.exit.symm⟩

theorem Screen.alike_keepJournal (screen : Screen) (wanted : Bool) :
    (screen.keepJournal wanted).Alike screen := by
  cases wanted <;> exact ⟨rfl, rfl⟩

theorem Screen.alike_andThen_empty (screen : Screen) : (screen.andThen fun _ => .empty).Alike screen := by
  obtain ⟨output, journal, exit⟩ := screen
  cases exit with
  | success => exact ⟨List.append_nil output, rfl⟩
  | failure reason => exact ⟨rfl, rfl⟩
  | misuse reason => exact ⟨rfl, rfl⟩

/-- The exit after samples that ended in these ways. -/
def exitAfter (endings : List Ending) : Exit :=
  match endings.getLast? with
  | none => .success
  | some ending => exitOf ending

theorem exit_seriesScreen {σ : Type} (options : Options) (grammar : Grammar)
    (runs : List (Run σ (List String))) :
    (seriesScreen options grammar runs).exit = exitAfter (runs.map Run.ending) := by
  rw [seriesScreen, exitAfter, List.getLast?_map]
  cases runs.getLast? <;> rfl

/-- The one grammar that is named, by the path of its file or as a built-in one. -/
def Options.named? (options : Options) (files : Files) : Option (Except Failure Grammar) :=
  match options.file, options.builtin with
  | some path, _ => some (Grammar.ofFile path (files.load path) options.start)
  | none, some sample => some (sample.grammar options.start)
  | none, none => none

/-- The runs of the program for a grammar. -/
def Options.runs (options : Options) (seed : UInt64) (grammar : Grammar) :
    List (Run Keystream (List String)) :=
  runsOf options (Uniform.choose Keystream.draw patience) patience grammar
    (Keystream.ofSeed (options.seed.getD seed))

/-- The sampler that makes these runs. -/
def Options.sampler (options : Options) (grammar : Grammar) : Sampler Keystream :=
  ⟨limitOf options.maxSteps, grammar, Uniform.choose Keystream.draw patience, patience⟩

theorem Options.runs_eq (options : Options) (seed : UInt64) (grammar : Grammar) :
    options.runs seed grammar =
      (options.sampler grammar).series (progressWatcher options) [] options.count
        (Keystream.ofSeed (options.seed.getD seed)) := by
  rw [Options.runs, runsOf, Options.sampler, Sampler.series]

/-- What is shown of a grammar that is named. -/
def Options.shown (options : Options) (seed : UInt64) : Except Failure Grammar → Screen
  | .ok grammar => seriesScreen options grammar (options.runs seed grammar)
  | .error cause => ⟨[], [], .failure cause.inspected⟩

/-! What is shown -/

section built

variable {σ : Type} {choose : Chooser σ} {patience : Nat} {chooser : σ} {options : Options} {built : Built}

theorem Built.grammars_add (records : List Journal.Record) (grammar : Except Failure Grammar) :
    (Built.add records grammar fun _ => .none).grammars = grammar.map fun grammar => [grammar] := by
  cases grammar <;> rfl

theorem builtScreen_alike_of_ok {grammar : Grammar} (one : built.grammars = .ok [grammar]) :
    (builtScreen options choose patience chooser [] built).Alike
      (seriesScreen options grammar (runsOf options choose patience grammar chooser)) := by
  refine (Screen.alike_keepJournal _ _).trans ?_
  simp only [Built.screen, one]
  -- nothing is shown of the building
  have alone : (Screen.andThen ⟨linesOf [], built.records, .success⟩ fun _ =>
      samplingScreen options choose patience [grammar] chooser).Alike
        (samplingScreen options choose patience [grammar] chooser) := ⟨rfl, rfl⟩
  exact alone.trans (Screen.alike_andThen_empty (seriesScreen options grammar _))

theorem builtScreen_alike_of_error {cause : Failure} (none : built.grammars = .error cause) :
    (builtScreen options choose patience chooser [] built).Alike ⟨[], [], .failure cause.inspected⟩ := by
  refine (Screen.alike_keepJournal _ _).trans ?_
  simp only [Built.screen, none]
  exact ⟨rfl, rfl⟩

end built

variable {arguments : List String} {options : Options} {files : Files} {result : Except Failure Grammar}

theorem exists_built (read : Request.ofArguments arguments = .ok (.sampling options))
    (named : options.named? files = some result) (seed : UInt64) :
    ∃ built, screenOf files seed arguments =
        builtScreen options (Uniform.choose Keystream.draw patience) patience
          (Keystream.ofSeed (options.seed.getD seed)) [] built ∧
      built.grammars = result.map fun grammar => [grammar] := by
  rw [screenOf, Task.ofArguments, read]
  cases file : options.file with
  | some path =>
    simp only [Options.named?, file] at named
    cases named
    simp only [samplingTask, file]
    exact ⟨_, rfl, Built.grammars_add _ _⟩
  | none =>
    cases builtin : options.builtin with
    | some sample =>
      simp only [Options.named?, file, builtin] at named
      cases named
      simp only [samplingTask, file, builtin]
      exact ⟨_, rfl, Built.grammars_add _ _⟩
    | none =>
      simp only [Options.named?, file, builtin] at named
      cases named

theorem screenOf_alike (read : Request.ofArguments arguments = .ok (.sampling options))
    (named : options.named? files = some result) (seed : UInt64) :
    (screenOf files seed arguments).Alike (options.shown seed result) := by
  obtain ⟨built, same, grammars⟩ := exists_built read named seed
  rw [same]
  cases result with
  | ok grammar => exact builtScreen_alike_of_ok grammars
  | error cause => exact builtScreen_alike_of_error grammars

theorem exists_builtin (sample : Sample) : ∃ grammar, sample.grammar none = .ok grammar := by
  have full : ∀ rule ∈ sample.rules, rule.rhs ≠ [] := by cases sample <;> decide
  have start : ∃ rule ∈ sample.rules, rule.lhs = sample.start := by cases sample <;> decide
  have built := Grammar.toOption_ofRules_isSome full start
  rw [Sample.grammar, Option.getD_none]
  cases result : Grammar.ofRules sample.rules sample.start with
  | ok grammar => exact ⟨grammar, rfl⟩
  | error cause =>
    rw [result] at built
    cases built

end SentenceSampler.Command
