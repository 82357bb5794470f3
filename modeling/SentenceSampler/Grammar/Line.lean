import SentenceSampler.Failure
import SentenceSampler.Text

/-!
The lines of a grammar written as rule lines, one at a time:

* `@axiom <S>` declares the start symbol,
* `<S> ::= ["NP", "VP"]` is a rule,
* a blank line and a line that starts with `#` say nothing.
-/
namespace SentenceSampler.Grammar

open Text

/-- A name between angle brackets: not empty, and up to the first closing one. -/
def readName (text : List Char) : Option (List Char × List Char) :=
  match text with
  | '<' :: inside =>
    match inside.takeWhile (· ≠ '>'), inside.dropWhile (· ≠ '>') with
    | c :: name, '>' :: rest => some (c :: name, rest)
    | _, _ => none
  | _ => none

/-- The symbol of a line that declares the start symbol, and nothing else. -/
def readStart (line : List Char) : Option (List Char) := do
  let rest ← ['@', 'a', 'x', 'i', 'o', 'm'].isPrefixOf? line
  guard (rest.head?.any isBlank)
  let (name, rest) ← readName (dropBlank rest)
  guard rest.isEmpty
  some name

/-- The left-hand side of a rule line and the text between its outermost square brackets. -/
def readRuleParts (line : List Char) : Option (List Char × List Char) := do
  let (lhs, rest) ← readName line
  let rest ← [':', ':', '='].isPrefixOf? (dropBlank rest)
  match dropBlank rest with
  | '[' :: inside => if inside.getLast? = some ']' then some (lhs, inside.dropLast) else none
  | _ => none

/-- What may stand between quoted symbols. -/
def isSeparator (c : Char) : Bool := c == ',' || isBlank c

/-- The quoted symbols of a text and what is left behind the last of them. A quotation mark without
partner belongs to what is left. -/
def readQuoted (text : List Char) : Except LineFault (List (List Char) × List Char) :=
  match _opening : text.dropWhile (· ≠ '"') with
  | [] => .ok ([], text)
  | _ :: inside =>
    match _closing : inside.dropWhile (· ≠ '"') with
    | [] => .ok ([], text)
    | _ :: rest =>
      let symbol := inside.takeWhile (· ≠ '"')
      if (text.takeWhile (· ≠ '"')).all isSeparator then
        match readQuoted rest with
        | .error fault => .error fault
        | .ok (symbols, left) => .ok (symbol :: symbols, left)
      else .error (.unquotedBefore (String.ofList symbol))
termination_by text.length
decreasing_by
  have outer := (List.dropWhile_suffix (l := text) (· ≠ '"')).length_le
  have inner := (List.dropWhile_suffix (l := inside) (· ≠ '"')).length_le
  simp only [_opening, _closing, List.length_cons] at outer inner
  omega

/-- The symbols of a right-hand side: at least one, each quoted, with separators around them. -/
def readSymbols (body : List Char) : Except LineFault (List (List Char)) :=
  match readQuoted body with
  | .error fault => .error fault
  | .ok (symbols, left) =>
    if left.all isSeparator then
      if symbols.isEmpty then .error .emptyRightSide else .ok symbols
    else .error (.trailingText (String.ofList (trim left)))

/-- What a line says. -/
inductive Statement where
  | nothing
  | start (symbol : Symbol)
  | rule (rule : Rule)
deriving DecidableEq, Repr

def readLine (line : List Char) : Except LineFault Statement :=
  let line := trim line
  if line.isEmpty ∨ line.head? = some '#' then .ok .nothing
  else match readStart line with
    | some name => .ok (.start (String.ofList name))
    | none => match readRuleParts line with
      | none => .error .notARule
      | some (lhs, body) => match readSymbols body with
        | .error fault => .error fault
        | .ok symbols => .ok (.rule ⟨String.ofList lhs, symbols.map String.ofList⟩)

/-! Writing -/

/-- A symbol that holds none of the characters its place does not allow. -/
def writable (forbidden : List Char) (symbol : Symbol) : Except Failure (List Char) :=
  if symbol.toList.any forbidden.contains then .error (.invalidGrammar (.unwritable symbol))
  else .ok symbol.toList

def writeStart (symbol : Symbol) : List Char :=
  '@' :: 'a' :: 'x' :: 'i' :: 'o' :: 'm' :: ' ' :: '<' :: (symbol.toList ++ ['>', '\n'])

/-- A rule as a line, its symbols separated by a comma and a space. -/
def writeRule (rule : Rule) : Except Failure (List Char) := do
  let lhs ← writable ['>', '"', '\n'] rule.lhs
  let symbols ← rule.rhs.mapM (writable ['"', '\n'])
  let quoted := symbols.map fun symbol => '"' :: (symbol ++ ['"'])
  .ok ('<' :: (lhs ++ '>' :: ' ' :: ':' :: ':' :: '=' :: ' ' :: '[' ::
    ([',', ' '].intercalate quoted ++ [']', '\n'])))

end SentenceSampler.Grammar
