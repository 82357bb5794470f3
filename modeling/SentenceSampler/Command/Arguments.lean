import SentenceSampler.Command.Options

/-!
Arguments read from left to right; the first thing wrong, or the first page asked for, ends the
reading.
-/
namespace SentenceSampler.Command

/-- The names that start with hyphens. -/
inductive Switch where
  | builtin
  | start
  | count
  | seed
  | maxSteps
  | trace
  | format
  | verbose
  | help
  | version
deriving DecidableEq, Repr

namespace Switch

def all : List Switch :=
  [builtin, start, count, seed, maxSteps, trace, format, verbose, help, version]

def long : Switch → String
  | builtin => "builtin"
  | start => "axiom"
  | count => "count"
  | seed => "seed"
  | maxSteps => "max-steps"
  | trace => "trace"
  | format => "format"
  | verbose => "verbose"
  | help => "help"
  | version => "version"

def short? : Switch → Option Char
  | builtin => some 'b'
  | start => some 'a'
  | count => some 'n'
  | seed => some 's'
  | maxSteps => none
  | trace => some 't'
  | format => some 'f'
  | verbose => some 'v'
  | help => some 'h'
  | version => some 'V'

def takesValue : Switch → Bool
  | builtin | start | count | seed | maxSteps | format => true
  | trace | verbose | help | version => false

def ofLong? (name : String) : Option Switch := all.find? fun switch => switch.long = name

def ofShort? (letter : Char) : Option Switch := all.find? fun switch => switch.short? = some letter

end Switch

/-- A number below `2 ^ 64` in decimal digits, with or without a plus sign. -/
def readNumber (text : String) : Option Nat :=
  let digits := match text.toList with
    | '+' :: digits => digits
    | digits => digits
  if digits.isEmpty || !digits.all Char.isDigit then none
  else
    let value := digits.foldl (fun value digit => 10 * value + (digit.toNat - '0'.toNat)) 0
    if value < UInt64.size then some value else none

/-- The options so far and the switches that were given. -/
structure Draft where
  options : Options := {}
  given : List Switch := []

/-- A switch counts once. -/
def Draft.mark (draft : Draft) (switch : Switch) : Except Refusal Draft :=
  if draft.given.contains switch then .error (.repeated switch.long)
  else .ok { draft with given := switch :: draft.given }

def Draft.setFlag (draft : Draft) (switch : Switch) : Except Refusal Draft := do
  match switch with
  | .help => .error (.explained .help)
  | .version => .error (.explained .version)
  | _ =>
    let draft ← draft.mark switch
    match switch with
    | .trace => .ok { draft with options.trace := true }
    | .verbose => .ok { draft with options.verbose := true }
    | _ => .ok draft

def Draft.setValue (draft : Draft) (switch : Switch) (value : String) : Except Refusal Draft := do
  let draft ← draft.mark switch
  let invalid : Except Refusal Draft := .error (.valueInvalid value switch.long)
  match switch with
  | .builtin => match Sample.ofName? value with
    | some sample => .ok { draft with options.builtin := some sample }
    | none => invalid
  | .start => .ok { draft with options.start := some value }
  | .count => match readNumber value with
    | some count => .ok { draft with options.count := count }
    | none => invalid
  | .seed => match readNumber value with
    | some seed => .ok { draft with options.seed := some seed.toUInt64 }
    | none => invalid
  | .maxSteps => match readNumber value with
    | some maxSteps => .ok { draft with options.maxSteps := maxSteps }
    | none => invalid
  | .format => match Format.ofName? value with
    | some format => .ok { draft with options.format := format }
    | none => invalid
  | _ => .ok draft

/-- The one argument that has no name is the path of a grammar file. -/
def Draft.setFile (draft : Draft) (path : String) : Except Refusal Draft :=
  if draft.options.file.isSome then .error (.unexpected path)
  else if path.isEmpty then .error (.valueMissing "GRAMMAR_FILE")
  else .ok { draft with options.file := some path }

/-- A file and a built-in grammar exclude each other. -/
def Draft.finish (draft : Draft) : Except Refusal Options :=
  if draft.options.file.isSome && draft.options.builtin.isSome then .error .conflict
  else .ok draft.options

/-- Whether an argument names a switch: it starts with a hyphen and is more than that. -/
def isSwitch (argument : String) : Bool :=
  match argument.toList with
  | '-' :: _ :: _ => true
  | _ => false

/-- The name and the value of an argument such as `name=value`. -/
def splitValue (argument : List Char) : List Char × Option (List Char) :=
  match argument.dropWhile (· ≠ '=') with
  | [] => (argument, none)
  | _ :: value => (argument.takeWhile (· ≠ '='), some value)

/-- What a single argument does to the draft: it is read completely, or a switch still waits for its
value. -/
inductive Reading where
  | complete (draft : Draft)
  | waiting (draft : Draft) (switch : Switch)

/-- A long name, after its two hyphens. -/
def readLong (draft : Draft) (argument : List Char) : Except Refusal Reading :=
  let (name, value) := splitValue argument
  match Switch.ofLong? (String.ofList name), value with
  | none, _ => .error (.unexpected (String.ofList ('-' :: '-' :: argument)))
  | some switch, none =>
    if switch.takesValue then .ok (.waiting draft switch)
    else (draft.setFlag switch).map .complete
  | some switch, some value =>
    if switch.takesValue then (draft.setValue switch (String.ofList value)).map .complete
    else .error (.valueNotTaken switch.long)

/-- Short names in a row, after their hyphen. The first that takes a value takes the rest of the
argument, without an equals sign in front, or the next argument. -/
def readShort (draft : Draft) : List Char → Except Refusal Reading
  | [] => .ok (.complete draft)
  | letter :: letters => match Switch.ofShort? letter with
    | none => .error (.unexpected (String.ofList ['-', letter]))
    | some switch =>
      if switch.takesValue then
        match letters with
        | [] => .ok (.waiting draft switch)
        | '=' :: value => (draft.setValue switch (String.ofList value)).map .complete
        | value => (draft.setValue switch (String.ofList value)).map .complete
      else match draft.setFlag switch with
        | .error refusal => .error refusal
        | .ok draft => readShort draft letters

def readSwitch (draft : Draft) (argument : String) : Except Refusal Reading :=
  match argument.toList with
  | '-' :: '-' :: name => readLong draft name
  | '-' :: letters => readShort draft letters
  | _ => .error (.unexpected argument)

/-- The arguments of an export: which grammar, where to, and whether in JSON. Behind two hyphens no
argument names a switch. -/
def readExport (sample : Option Sample) (json : Bool) (output : Option String) (plain : Bool) :
    List String → Except Refusal Export
  | [] => match sample with
    | some sample => .ok ⟨sample, json, output⟩
    | none => .error .sampleMissing
  | argument :: later =>
    if !plain && argument = "--" then readExport sample json output true later
    else if !plain && isSwitch argument then
      if argument = "--json" then
        if json then .error (.repeated "json") else readExport sample true output plain later
      else if argument = "--help" || "-h".isPrefixOf argument then
        .error (.explained .exportHelp)
      else .error (.unexpected argument)
    else match sample, output with
      | none, _ => match Sample.ofName? argument with
        | some sample => readExport (some sample) json output plain later
        | none => .error (.valueInvalid argument "BUILTIN")
      | some _, none =>
        if argument.isEmpty then .error (.valueMissing "OUTPUT")
        else readExport sample json (some argument) plain later
      | some _, some _ => .error (.unexpected argument)

/-- The arguments of the program. `waiting` is the switch whose value comes next; `plain` holds
behind two hyphens, where no argument names a switch or an export. -/
def readArguments (draft : Draft) (waiting : Option Switch) (plain : Bool) :
    List String → Except Refusal Request
  | [] => match waiting with
    | some switch => .error (.valueMissing switch.long)
    | none => draft.finish.map .sampling
  | argument :: later => match waiting with
    | some switch =>
      if isSwitch argument then .error (.valueMissing switch.long)
      else match draft.setValue switch argument with
        | .error refusal => .error refusal
        | .ok draft => readArguments draft none plain later
    | none =>
      if plain then
        match draft.setFile argument with
        | .error refusal => .error refusal
        | .ok draft => readArguments draft none plain later
      else if argument = "export" then
        match readExport none false none false later with
        | .error refusal => .error refusal
        | .ok wanted => draft.finish.map fun options => .exporting options.verbose wanted
      else if argument = "help" then
        match later with
        | [] => .error (.explained .help)
        | ["export"] => .error (.explained .exportHelp)
        | ["help"] => .error (.explained .help)
        | name :: _ => .error (.unexpected name)
      else if argument = "--" then readArguments draft none true later
      else if isSwitch argument then
        match readSwitch draft argument with
        | .error refusal => .error refusal
        | .ok (.complete draft) => readArguments draft none plain later
        | .ok (.waiting draft switch) => readArguments draft (some switch) plain later
      else match draft.setFile argument with
        | .error refusal => .error refusal
        | .ok draft => readArguments draft none plain later

def Request.ofArguments (arguments : List String) : Except Refusal Request :=
  readArguments {} none false arguments

end SentenceSampler.Command
