/-!
Sentences: tokens written one after the other, with a space where a reader expects one.
-/
namespace SentenceSampler.Sentence

/-- A token that starts with one of these follows the text before it without a space. -/
def attaches (c : Char) : Bool :=
  c == '.' || c == '?' || c == ',' || c == ':' || c == ' '

/-- What goes between the text so far and the next token. An empty token leaves no trace. -/
def gap (token : String) : String :=
  match token.toList.head? with
  | none => ""
  | some c => if attaches c then "" else " "

/-- The first token stands as it is; whether a later one gets a space depends on that token alone,
also where everything before it is empty. -/
def join (tokens : List String) : String :=
  match tokens with
  | [] => ""
  | first :: later => later.foldl (fun text token => text ++ gap token ++ token) first

end SentenceSampler.Sentence
