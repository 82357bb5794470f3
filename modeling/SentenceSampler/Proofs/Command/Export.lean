import SentenceSampler.Proofs.Command.Program
import SentenceSampler.Proofs.File.Disk
import SentenceSampler.Proofs.Grammar.RoundTrip

/-!
Built-in grammars that are exported to a file. Main statement: an export fails only if its path cannot be
written to; afterwards sampling from the file shows what sampling from the built-in grammar shows.
-/
namespace SentenceSampler.Command

variable {sample : Sample} {grammar : Grammar} {wanted : Export} {path text : String} {disk saved : Disk}

/-- A disk as the program meets it. -/
def Files.ofDisk (disk : Disk) : Files where
  load := disk.load
  save path text := match disk.save path text with
    | .error fault => some fault
    | .ok _ => none

/-! Texts of built-in grammars -/

theorem parts_of_builtin (built : sample.grammar none = .ok grammar) :
    grammar.rules = sample.rules ∧ grammar.start = sample.start := by
  obtain ⟨_, _, failed⟩ | ⟨_, failed⟩ | ⟨_, other, done, rules, start⟩ :=
    Grammar.ofRules_cases sample.rules sample.start
  · cases failed.symm.trans built
  · cases failed.symm.trans built
  · cases done.symm.trans built
    exact ⟨rules, start⟩

theorem ofParts_builtin (built : sample.grammar none = .ok grammar) (asked : Option Symbol) :
    Grammar.ofParts grammar.rules asked (some grammar.start) = sample.grammar asked := by
  obtain ⟨rules, start⟩ := parts_of_builtin built
  rw [rules, start]
  cases asked <;> rfl

/-- No symbol of a built-in grammar is out of place on a line. -/
theorem unwritable_builtin (sample : Sample) : sample.rules.flatMap Grammar.unwritable = [] := by
  cases sample <;> cbv

theorem exists_text (built : wanted.sample.grammar none = .ok grammar) :
    ∃ text, wanted.text grammar = .ok text := by
  unfold Export.text
  split
  · exact ⟨_, rfl⟩
  · refine Grammar.exists_toRuleLines_iff.mpr fun rule member => ?_
    rw [(parts_of_builtin built).1] at member
    exact Grammar.unwritable_eq_nil_iff.mp (List.flatMap_eq_nil_iff.mp (unwritable_builtin _) rule member)

theorem ofFile_text (built : wanted.sample.grammar none = .ok grammar) (written : wanted.text grammar = .ok text)
    (form : wanted.json = true ↔ Path.extension? path = some "json") (asked : Option Symbol) :
    Grammar.ofFile path (.ok text) asked = wanted.sample.grammar asked := by
  have named : ∀ rule ∈ wanted.sample.rules, rule.lhs ≠ "" := by cases wanted.sample <;> decide
  rw [← ofParts_builtin built]
  unfold Export.text at written
  simp only [Grammar.ofFile]
  by_cases json : wanted.json = true
  · rw [if_pos json] at written
    cases written
    rw [if_pos (form.mp json), Grammar.ofJson_toJson]
  · rw [if_neg json] at written
    rw [if_neg (mt form.mpr json)]
    refine Grammar.ofRuleLines_of_written (fun rule member => ?_) written asked
    rw [(parts_of_builtin built).1] at member
    exact named rule member

/-! The whole program -/

variable {exporting : List String} {verbose : Bool}

theorem exit_screenOf_export (read : Request.ofArguments exporting = .ok (.exporting verbose wanted))
    (output : wanted.output = some path) (built : wanted.sample.grammar none = .ok grammar)
    (written : wanted.text grammar = .ok text) (disk : Disk) (seed : UInt64) :
    (screenOf (.ofDisk disk) seed exporting).exit = match disk.save path text with
      | .error fault => .failure fault.inspected
      | .ok _ => .success := by
  have bound : (wanted.sample.grammar none).bind wanted.text = .ok text := by
    rw [built]
    exact written
  rw [screenOf, Task.ofArguments, read]
  simp only [exportTask, bound, output, Task.screen, Files.ofDisk]
  cases disk.save path text <;> cases verbose <;> rfl

/-- An export to a file fails because the path cannot be written to. Otherwise there is a text, and on the disk
with this text at the path sampling from the path shows what sampling from the built-in grammar shows, with
whichever other options, if the extension of the path tells the form of the text. -/
theorem export_then_sample (read : Request.ofArguments exporting = .ok (.exporting verbose wanted))
    (output : wanted.output = some path) (form : wanted.json = true ↔ Path.extension? path = some "json")
    (disk : Disk) (seed : UInt64) :
    (∃ fault, disk.destination path = .error fault ∧
      (screenOf (.ofDisk disk) seed exporting).exit = .failure fault.inspected) ∨
    ∃ text saved, (screenOf (.ofDisk disk) seed exporting).exit = .success ∧ disk.save path text = .ok saved ∧
      ∀ files arguments direct options seed', options.file = some path →
        Request.ofArguments arguments = .ok (.sampling options) →
        Request.ofArguments direct =
          .ok (.sampling { options with file := none, builtin := some wanted.sample }) →
        (screenOf (.ofDisk saved) seed' arguments).Alike (screenOf files seed' direct) := by
  obtain ⟨grammar, built⟩ := exists_builtin wanted.sample
  obtain ⟨text, written⟩ := exists_text built
  have exit := exit_screenOf_export read output built written disk seed
  cases stored : disk.save path text with
  | error fault =>
    rw [stored] at exit
    exact .inl ⟨fault, Disk.save_eq_error_iff.mp stored, exit⟩
  | ok saved =>
    rw [stored] at exit
    refine .inr ⟨text, saved, exit, stored, fun files arguments direct options seed' file sampling builtin => ?_⟩
    have same : Grammar.ofFile path (saved.load path) options.start = wanted.sample.grammar options.start := by
      rw [Disk.load_of_save stored]
      exact ofFile_text built written form options.start
    have named : options.named? (.ofDisk saved) = some (wanted.sample.grammar options.start) := by
      rw [← same, Options.named?, file]
      rfl
    exact (screenOf_alike sampling named seed').trans (screenOf_alike builtin rfl seed').symm

end SentenceSampler.Command
