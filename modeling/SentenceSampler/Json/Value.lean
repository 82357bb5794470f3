/-!
JSON values made of texts, lists and objects, and their two written forms: compact, and indented by
two spaces a level. Each writer puts its text in front of a given rest.
-/
namespace SentenceSampler.Json

/-- The members of an object keep their order. -/
inductive Value where
  | text (value : String)
  | list (items : List Value)
  | object (members : List (String × Value))

/-- Only the quotation mark, the backslash and the controls below the space are escaped, five of
these by a letter and the others by their code. -/
def escaped (c : Char) : List Char :=
  match c with
  | '"' => ['\\', '"']
  | '\\' => ['\\', '\\']
  | '\x08' => ['\\', 'b']
  | '\x0c' => ['\\', 'f']
  | '\n' => ['\\', 'n']
  | '\r' => ['\\', 'r']
  | '\t' => ['\\', 't']
  | c =>
    if c.toNat < 0x20 then
      ['\\', 'u', '0', '0', Nat.digitChar (c.toNat / 16), Nat.digitChar (c.toNat % 16)]
    else [c]

def writeText (value : String) (rest : List Char) : List Char :=
  '"' :: (value.toList.flatMap escaped ++ '"' :: rest)

mutual

/-- The compact form, without any blank between the parts. -/
def Value.writeBefore : Value → List Char → List Char
  | .text value, rest => writeText value rest
  | .list items, rest => '[' :: writeItems items (']' :: rest)
  | .object members, rest => '\x7b' :: writeMembers members ('\x7d' :: rest)
termination_by structural value => value

def writeItems : List Value → List Char → List Char
  | [], rest => rest
  | value :: values, rest => value.writeBefore (writeLaterItems values rest)
termination_by structural values => values

def writeLaterItems : List Value → List Char → List Char
  | [], rest => rest
  | value :: values, rest => ',' :: value.writeBefore (writeLaterItems values rest)
termination_by structural values => values

def writeMembers : List (String × Value) → List Char → List Char
  | [], rest => rest
  | member :: members, rest => writeMember member (writeLaterMembers members rest)
termination_by structural members => members

def writeLaterMembers : List (String × Value) → List Char → List Char
  | [], rest => rest
  | member :: members, rest => ',' :: writeMember member (writeLaterMembers members rest)
termination_by structural members => members

def writeMember : String × Value → List Char → List Char
  | (key, value), rest => writeText key (':' :: value.writeBefore rest)
termination_by structural member => member

end

def Value.compact (value : Value) : String := String.ofList (value.writeBefore [])

/-- A new line at a level of indentation. -/
def newLine (level : Nat) (rest : List Char) : List Char :=
  '\n' :: (List.replicate (2 * level) ' ' ++ rest)

mutual

/-- The indented form at a level: every item and member on lines of its own, nothing between the
brackets of an empty list or object. -/
def Value.layOutBefore (level : Nat) : Value → List Char → List Char
  | .text value, rest => writeText value rest
  | .list items, rest => '[' :: layOutItems level items (']' :: rest)
  | .object members, rest => '\x7b' :: layOutMembers level members ('\x7d' :: rest)
termination_by structural value => value

def layOutItems (level : Nat) : List Value → List Char → List Char
  | [], rest => rest
  | value :: values, rest =>
    newLine (level + 1)
      (value.layOutBefore (level + 1) (layOutLaterItems level values (newLine level rest)))
termination_by structural values => values

def layOutLaterItems (level : Nat) : List Value → List Char → List Char
  | [], rest => rest
  | value :: values, rest =>
    ',' :: newLine (level + 1) (value.layOutBefore (level + 1) (layOutLaterItems level values rest))
termination_by structural values => values

def layOutMembers (level : Nat) : List (String × Value) → List Char → List Char
  | [], rest => rest
  | member :: members, rest =>
    newLine (level + 1)
      (layOutMember (level + 1) member (layOutLaterMembers level members (newLine level rest)))
termination_by structural members => members

def layOutLaterMembers (level : Nat) : List (String × Value) → List Char → List Char
  | [], rest => rest
  | member :: members, rest =>
    ',' :: newLine (level + 1)
      (layOutMember (level + 1) member (layOutLaterMembers level members rest))
termination_by structural members => members

def layOutMember (level : Nat) : String × Value → List Char → List Char
  | (key, value), rest => writeText key (':' :: ' ' :: value.layOutBefore level rest)
termination_by structural member => member

end

def Value.indented (value : Value) : String := String.ofList (value.layOutBefore 0 [])

end SentenceSampler.Json
