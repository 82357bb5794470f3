import SentenceSampler.Command.Options

/-!
The pages that explain the program, and what it says to arguments it cannot use.
-/
namespace SentenceSampler.Command

def helpLines : List String := [
  "Random sentences from context-free grammars",
  "",
  "Usage: cfg-sampler [OPTIONS] [GRAMMAR_FILE] [COMMAND]",
  "",
  "Commands:",
  "  export  Write a built-in grammar to a file",
  "  help    Print this message or the help of the given subcommand(s)",
  "",
  "Arguments:",
  "  [GRAMMAR_FILE]  Path to the grammar file",
  "",
  "Options:",
  "  -b, --builtin <BUILTIN>      Use a built-in grammar instead of a file " ++
    "[possible values: toy, weather]",
  "  -a, --axiom <SYMBOL>         Start symbol (default: the one declared by the grammar)",
  "  -n, --count <COUNT>          Number of samples per grammar [default: 3]",
  "  -s, --seed <SEED>            Seed for reproducible output",
  "      --max-steps <MAX_STEPS>  Give up after this many expansions, 0 for no limit " ++
    "[default: 10000]",
  "  -t, --trace                  Print the text after every expansion step",
  "  -f, --format <FORMAT>        Output format [default: text] [possible values: text, json]",
  "  -v, --verbose                Log at debug level unless RUST_LOG says otherwise",
  "  -h, --help                   Print help",
  "  -V, --version                Print version"]

def exportHelpLines : List String := [
  "Write a built-in grammar to a file",
  "",
  "Usage: cfg-sampler export [OPTIONS] <BUILTIN> [OUTPUT]",
  "",
  "Arguments:",
  "  <BUILTIN>  [possible values: toy, weather]",
  "  [OUTPUT]   Output file path (default: stdout)",
  "",
  "Options:",
  "      --json  Write JSON instead of rule lines",
  "  -h, --help  Print help"]

def Page.lines : Page → List String
  | .help => helpLines
  | .exportHelp => exportHelpLines
  | .version => ["cfg-sampler 0.1.0"]

def Refusal.message : Refusal → String
  | .explained _ => ""
  | .unexpected argument => "unexpected argument '" ++ argument ++ "' found"
  | .repeated name => "the argument '" ++ name ++ "' cannot be used multiple times"
  | .valueMissing name => "a value is required for '" ++ name ++ "' but none was supplied"
  | .valueNotTaken name => "unexpected value for '" ++ name ++ "' found; no more were expected"
  | .valueInvalid value name => "invalid value '" ++ value ++ "' for '" ++ name ++ "'"
  | .conflict => "the argument '--builtin' cannot be used with '[GRAMMAR_FILE]'"
  | .sampleMissing => "the following required arguments were not provided: <BUILTIN>"

end SentenceSampler.Command
