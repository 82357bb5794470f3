import SentenceSampler.Proofs.Command.Program

/-!
Options that have no influence on the samples. Main statement: neither the format nor the trace nor the
journal changes what is sampled, and fewer samples print the beginning of what more of them print.
-/
namespace SentenceSampler.Command

open Generator (Run)

variable {arguments : List String} {files : Files} {options options' : Options} {result : Except Failure Grammar}
variable {screen screen' : Screen} {seed : UInt64} {grammar : Grammar}

/-! Options that present the samples -/

/-- What two screens show was sampled alike: the same trees one after the other, up to the same end. -/
structure SampledAlike (options options' : Options) (seed : UInt64) (result : Except Failure Grammar)
    (screen screen' : Screen) : Prop where
  left : screen.Alike (options.shown seed result)
  right : screen'.Alike (options'.shown seed result)
  endings : ∀ grammar, result = .ok grammar →
    (options.runs seed grammar).map Run.ending = (options'.runs seed grammar).map Run.ending
  exit : screen.exit = screen'.exit

/-- Options that differ in the presentation of the samples at most. -/
def Options.present (options : Options) (format : Format) (trace verbose : Bool) : Options :=
  { options with format, trace, verbose }

theorem endings_present (options : Options) (format : Format) (trace verbose : Bool) (seed : UInt64)
    (grammar : Grammar) :
    (options.runs seed grammar).map Run.ending =
      ((options.present format trace verbose).runs seed grammar).map Run.ending := by
  rw [Options.runs_eq, Options.runs_eq]
  exact Sampler.series_watched (options.sampler grammar) _ _ _ _ _ _

theorem SampledAlike.of_endings (left : screen.Alike (options.shown seed result))
    (right : screen'.Alike (options'.shown seed result))
    (endings : ∀ grammar, (options.runs seed grammar).map Run.ending =
      (options'.runs seed grammar).map Run.ending) :
    SampledAlike options options' seed result screen screen' := by
  refine ⟨left, right, fun grammar _ => endings grammar, left.exit.trans (Eq.trans ?_ right.exit.symm)⟩
  cases result with
  | ok grammar => rw [Options.shown, Options.shown, exit_seriesScreen, exit_seriesScreen, endings grammar]
  | error cause => rfl

/-! The number of samples -/

/-- What one screen shows is continued by another one, which shows no more if a sample of the first one does
not finish. -/
structure Continues (options : Options) (seed : UInt64) (result : Except Failure Grammar)
    (screen screen' : Screen) : Prop where
  starts : ∃ rest, screen'.printed = screen.printed ++ rest
  whole : ∀ grammar, result = .ok grammar →
    (∃ run ∈ options.runs seed grammar, ¬ run.ending.Finished) → screen'.printed = screen.printed

theorem printed_append {σ : Type} (options : Options) (grammar : Grammar)
    (runs later : List (Run σ (List String))) :
    (seriesScreen options grammar (runs ++ later)).printed =
      (seriesScreen options grammar runs).printed ++
        String.join (linesOf (later.flatMap (runLines options grammar))) := by
  simp [Screen.printed, seriesScreen, linesOf, String.append_assoc]

theorem runs_count {more : Nat} (le : options.count ≤ more) (seed : UInt64) (grammar : Grammar) :
    options.runs seed grammar <+: { options with count := more }.runs seed grammar ∧
      ((∃ run ∈ options.runs seed grammar, ¬ run.ending.Finished) →
        options.runs seed grammar = { options with count := more }.runs seed grammar) := by
  rw [Options.runs_eq, Options.runs_eq]
  exact Sampler.series_le le (progressWatcher options) [] (Keystream.ofSeed (options.seed.getD seed))

theorem Screen.Alike.printed (alike : screen.Alike screen') : screen.printed = screen'.printed :=
  congrArg String.join alike.output

theorem Continues.of_count {more : Nat} (le : options.count ≤ more)
    (left : screen.Alike (options.shown seed result))
    (right : screen'.Alike ({ options with count := more }.shown seed result)) :
    Continues options seed result screen screen' := by
  refine ⟨?_, ?_⟩
  · rw [left.printed, right.printed]
    cases result with
    | error cause => exact ⟨"", rfl⟩
    | ok grammar =>
      obtain ⟨later, same⟩ := (runs_count le seed grammar).1
      rw [Options.shown, Options.shown, ← same]
      exact ⟨_, printed_append options grammar _ later⟩
  · rintro grammar rfl unfinished
    have same := (runs_count le seed grammar).2 unfinished
    rw [left.printed, right.printed, Options.shown, Options.shown, ← same]
    rfl

/-- Where one grammar is named, the presentation of the samples has no influence on them, and fewer samples
are the first ones of more. -/
theorem sampling_unaffected (read : Request.ofArguments arguments = .ok (.sampling options))
    (named : options.named? files = some result) (seed : UInt64) :
    (∀ format trace verbose arguments',
      Request.ofArguments arguments' = .ok (.sampling (options.present format trace verbose)) →
        SampledAlike options (options.present format trace verbose) seed result
          (screenOf files seed arguments) (screenOf files seed arguments')) ∧
    ∀ more arguments', options.count ≤ more →
      Request.ofArguments arguments' = .ok (.sampling { options with count := more }) →
        Continues options seed result (screenOf files seed arguments) (screenOf files seed arguments') := by
  have own := screenOf_alike read named seed
  refine ⟨fun format trace verbose arguments' read' => ?_, fun more arguments' le read' => ?_⟩
  · have presented : (options.present format trace verbose).named? files = some result := named
    exact .of_endings own (screenOf_alike read' presented seed) (endings_present options _ _ _ seed)
  · have named' : { options with count := more }.named? files = some result := named
    exact .of_count le own (screenOf_alike read' named' seed)

/-- A built-in grammar, traced in the one case, and with nine samples in the other. -/
theorem sampling_unaffected_toy :
    let options : Options := { builtin := some .toy, seed := some 5 }
    let files : Files := ⟨fun _ => .error .missing, fun _ _ => none⟩
    let plain := screenOf files 0 ["-btoy", "-s5"]
    ∃ result, options.named? files = some result ∧
      SampledAlike options (options.present .json true true) 0 result plain
        (screenOf files 0 ["-tvbtoy", "-s5", "--format=json"]) ∧
      Continues options 0 result plain (screenOf files 0 ["-btoy", "-s5", "-n", "9"]) := by
  intro options files plain
  have named : options.named? files = some (Sample.toy.grammar none) := rfl
  have read : Request.ofArguments ["-btoy", "-s5"] = .ok (.sampling options) := rfl
  obtain ⟨presented, continued⟩ := sampling_unaffected read named 0
  exact ⟨_, named, presented .json true true _ rfl, continued 9 _ (by decide) rfl⟩

end SentenceSampler.Command
