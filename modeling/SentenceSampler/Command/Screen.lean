import SentenceSampler.Journal

/-!
What the program leaves behind: its output, its journal, and how it ended.
-/
namespace SentenceSampler.Command

open Journal

/-- How the program ends. Misuse is told apart from a failure of the work itself. -/
inductive Exit where
  | success
  | failure (reason : String)
  | misuse (reason : String)
deriving DecidableEq, Repr

def Exit.code : Exit → Nat
  | .success => 0
  | .failure _ => 1
  | .misuse _ => 2

/-- The output in pieces, which include their line feeds. -/
structure Screen where
  output : List String
  journal : List Record
  exit : Exit
deriving DecidableEq, Repr

/-- Lines as pieces of output. -/
def linesOf (lines : List String) : List String := lines.map (· ++ "\n")

/-- A record as a line of the journal; further lines of its message are indented. -/
def journalLine (record : Record) : String :=
  let level := record.level.name
  "[" ++ level ++ String.ofList (List.replicate (5 - level.length) ' ') ++ " " ++
    record.topic.name ++ "] " ++ "\n    ".intercalate (record.message.splitOn "\n")

namespace Screen

def empty : Screen := ⟨[], [], .success⟩

def printed (screen : Screen) : String := String.join screen.output

/-- The journal, and behind it the reason why the program failed. -/
def reported (screen : Screen) : String :=
  String.join (linesOf (screen.journal.map journalLine ++ match screen.exit with
    | .success => []
    | .failure reason => ["Error: " ++ reason]
    | .misuse reason => ["error: " ++ reason, "", "For more information, try '--help'."]))

/-- Two parts of the program one after the other; the second is left out unless the first
succeeded. -/
def andThen (first : Screen) (second : Unit → Screen) : Screen :=
  match first.exit with
  | .success =>
    let second := second ()
    ⟨first.output ++ second.output, first.journal ++ second.journal, second.exit⟩
  | _ => first

/-- The journal is dropped unless it is wanted. -/
def keepJournal (wanted : Bool) (screen : Screen) : Screen :=
  if wanted then screen else { screen with journal := [] }

end Screen

end SentenceSampler.Command
