import SentenceSampler.File.Disk
import SentenceSampler.Grammar.RuleLines
import SentenceSampler.Journal
import SentenceSampler.Json.Record
import SentenceSampler.Json.Value

/-!
Rules and grammars written in JSON, `{"axiom": "S", "rules": [{"lhs": "S", "rhs": ["a"]}]}`, and
grammars read from files: JSON if the extension says so, rule lines otherwise.
-/
namespace SentenceSampler

open Json

namespace Rule

def reader : Reader Rule :=
  (Reader.record "struct Rule" ⟨"lhs", .text, none⟩ ⟨"rhs", .list .text, none⟩).map
    fun (lhs, rhs) => ⟨lhs, rhs⟩

def toJson (rule : Rule) : Value :=
  .object [("lhs", .text rule.lhs), ("rhs", .list (rule.rhs.map .text))]

def ofJson (text : String) : Except Failure Rule :=
  match reader.whole text.toList with
  | .error fault => .error (.json fault)
  | .ok rule => .ok rule

end Rule

namespace Grammar

/-- The start symbol may be left out or `null`, the rules may not. -/
def documentReader : Reader (Option Symbol × List Rule) :=
  .record "struct GrammarDefinition" ⟨"axiom", .optional .text, some none⟩
    ⟨"rules", .list Rule.reader, none⟩

def ofJson (text : String) (asked : Option Symbol) : Except Failure Grammar :=
  match documentReader.whole text.toList with
  | .error fault => .error (.json fault)
  | .ok (declared, rules) => ofParts rules asked declared

def document (grammar : Grammar) : Value :=
  .object [("axiom", .text grammar.start), ("rules", .list (grammar.rules.map Rule.toJson))]

def toJson (grammar : Grammar) : String := grammar.document.indented

/-! Files -/

/-- The grammar a file holds, given what reading it led to. -/
def ofFile (path : String) (contents : Except FileFault String) (asked : Option Symbol) :
    Except Failure Grammar :=
  match contents with
  | .error fault => .error (.io fault)
  | .ok text =>
    if Path.extension? path = some "json" then ofJson text asked else ofRuleLines text asked

/-- A file that was read is noted before its contents are looked at. -/
def fileRecords (path : String) (contents : Except FileFault String) (asked : Option Symbol) :
    List Journal.Record :=
  match contents with
  | .error _ => []
  | .ok _ =>
    ⟨.debug, .grammar, "loading grammar from " ++ path⟩ ::
      buildRecords (ofFile path contents asked)

end Grammar

end SentenceSampler
