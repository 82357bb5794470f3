import SentenceSampler.Decimal.Shortest
import SentenceSampler.Text

/-!
What can be wrong with a JSON text, and the one wording of each fault.
-/
namespace SentenceSampler.Json

/-- A number as it was read: whole numbers that fit 64 bits, with sign if negative, stay whole. -/
inductive Numeral where
  | integer (value : Int)
  | floating (negative : Bool) (magnitude : Decimal.Binary)
deriving DecidableEq, Repr

/-- The kinds of value that can stand where another kind is wanted. -/
inductive Found where
  | null
  | boolean (value : Bool)
  | number (numeral : Numeral)
  | text (value : String)
  | sequence
  | map
deriving DecidableEq, Repr

inductive Fault where
  | endInValue
  | endInList
  | endInObject
  | endInString
  | expectedValue
  | expectedIdent
  | invalidNumber
  | numberOutOfRange
  | expectedColon
  | expectedCommaOrBracket
  | expectedCommaOrBrace
  | trailingComma
  | trailingCharacters
  | keyMustBeString
  | invalidEscape
  | loneSurrogate
  | endOfHexEscape
  | controlCharacter
  | wrongType (found : Found) (expected : String)
  | wrongLength (found : Nat) (expected : String)
  | missingField (key : String)
  | duplicateField (key : String)
deriving DecidableEq, Repr

/-- Decimal exponents from here are written out with a point. -/
def leastPositional : Int := -5

/-- Decimal exponents from here are written with a power of ten. -/
def firstExponential : Int := 16

/-- A power of ten always shows its sign. -/
def layOutExponent (exponent : Int) : String :=
  (if exponent < 0 then "e-" else "e+") ++ toString exponent.natAbs

/-- A fraction always shows a point or a power of ten. -/
def layOut (decimal : Decimal.Scientific) : String :=
  let digits := Nat.toDigits 10 decimal.digits
  let exponent := decimal.exponent + digits.length - 1
  if leastPositional ≤ exponent ∧ exponent < firstExponential then
    if exponent < 0 then
      "0." ++ String.ofList (List.replicate (-exponent - 1).toNat '0' ++ digits)
    else
      let places := exponent.toNat + 1
      let whole := digits.take places ++ List.replicate (places - digits.length) '0'
      let fraction := digits.drop places
      String.ofList whole ++ "." ++ String.ofList (if fraction.isEmpty then ['0'] else fraction)
  else
    let fraction := digits.drop 1
    String.ofList (digits.take 1) ++
      (if fraction.isEmpty then "" else "." ++ String.ofList fraction) ++ layOutExponent exponent

def Numeral.shown : Numeral → String
  | .integer value => "integer `" ++ toString value ++ "`"
  | .floating negative magnitude =>
    "floating point `" ++ (if negative then "-" else "") ++
      layOut (Decimal.shortest magnitude) ++ "`"

def Found.shown : Found → String
  | .null => "null"
  | .boolean value => "boolean `" ++ (if value then "true" else "false") ++ "`"
  | .number numeral => numeral.shown
  | .text value => "string " ++ Text.quoted value
  | .sequence => "sequence"
  | .map => "map"

def Fault.message : Fault → String
  | .endInValue => "EOF while parsing a value"
  | .endInList => "EOF while parsing a list"
  | .endInObject => "EOF while parsing an object"
  | .endInString => "EOF while parsing a string"
  | .expectedValue => "expected value"
  | .expectedIdent => "expected ident"
  | .invalidNumber => "invalid number"
  | .numberOutOfRange => "number out of range"
  | .expectedColon => "expected `:`"
  | .expectedCommaOrBracket => "expected `,` or `]`"
  | .expectedCommaOrBrace => "expected `,` or `\x7d`"
  | .trailingComma => "trailing comma"
  | .trailingCharacters => "trailing characters"
  | .keyMustBeString => "key must be a string"
  | .invalidEscape => "invalid escape"
  | .loneSurrogate => "lone leading surrogate in hex escape"
  | .endOfHexEscape => "unexpected end of hex escape"
  | .controlCharacter => "control character (\\u0000-\\u001F) found while parsing a string"
  | .wrongType found expected => "invalid type: " ++ found.shown ++ ", expected " ++ expected
  | .wrongLength found expected =>
    "invalid length " ++ toString found ++ ", expected " ++ expected
  | .missingField key => "missing field `" ++ key ++ "`"
  | .duplicateField key => "duplicate field `" ++ key ++ "`"

end SentenceSampler.Json
