import SentenceSampler.Command.Program

/-!
The command line: prints what the program leaves behind for the files that it meets.
-/
namespace SentenceSampler.Command

/-- The number of a system fault, which may have been given negated. -/
def faultNumber (code : UInt32) : Nat := min code.toNat (0 - code).toNat

def faultOfNumber (number : Nat) (detail : String) : FileFault :=
  match number with
  | 20 => .notDirectory
  | 21 => .isDirectory
  | 36 => .nameTooLong
  | _ => .other number detail

/-- The fault that the system tells by an error. -/
def faultOf (error : IO.Error) : FileFault :=
  match error with
  | .noFileOrDirectory .. => .missing
  | .permissionDenied .. => .denied
  | .inappropriateType _ code detail => faultOfNumber (faultNumber code) detail
  | .invalidArgument _ code detail => faultOfNumber (faultNumber code) detail
  | other => .other 0 other.toString

def loadFile (path : String) : IO (Except FileFault String) := do
  try
    let bytes ← IO.FS.readBinFile path
    match String.fromUTF8? bytes with
    | some text => pure (.ok text)
    | none => pure (.error .notText)
  catch error => pure (.error (faultOf error))

def saveFile (path contents : String) : IO (Option FileFault) := do
  try
    IO.FS.writeFile path contents
    pure none
  catch error => pure (some (faultOf error))

/-- The files as a task meets them: it asks for one of them at most, and nothing is known of the others. -/
def Task.meet (task : Task) : IO Files :=
  let others : Files := ⟨fun _ => .error .missing, fun _ _ => none⟩
  match task with
  | .done _ => return others
  | .load path _ => do
    let contents ← loadFile path
    return { others with load := fun _ => contents }
  | .save path contents _ => do
    let fault ← saveFile path contents
    return { others with save := fun _ _ => fault }

end SentenceSampler.Command

open SentenceSampler.Command in
def main (arguments : List String) : IO UInt32 := do
  let entropy ← IO.getRandomBytes 8
  let seed := entropy.toList.foldl (fun word byte => word * 256 + byte.toUInt64) (0 : UInt64)
  let task := Task.ofArguments seed arguments
  let screen := task.screen (← task.meet)
  IO.print screen.printed
  IO.eprint screen.reported
  return screen.exit.code.toUInt32
