import SentenceSampler.Decimal.Binary

/-!
The shortest decimal that reads back to a binary number. Every real number nearer to it than to its
neighbours rounds to it, and so do the two ends of that interval where its significand is even.
-/
namespace SentenceSampler.Decimal

/-- The decimal `digits * 10 ^ exponent`. -/
structure Scientific where
  digits : Nat
  exponent : Int
deriving DecidableEq, Repr

/-- Whether a decimal rounds to a positive binary number. All sides are quarters of its last place;
the place below a power of two is half as wide. -/
def roundsTo (number : Binary) (decimal : Scientific) : Bool :=
  let quarters := decimal.digits * power 10 decimal.exponent * 4 * number.den
  let unit := power 2 number.exponent * power 10 (-decimal.exponent)
  let middle := 4 * number.significand
  let below := if 2 * number.significand = significandLimit && number.exponent ≠ -1074 then 1 else 2
  let low := (middle - below) * unit
  let high := (middle + 2) * unit
  if number.significand % 2 = 0 then low ≤ quarters && quarters ≤ high
  else low < quarters && quarters < high

/-- The nearer of the two decimals of one grid next to a binary number, the even one where both are
equally near, provided that it rounds to that number. -/
def onGrid (number : Binary) (exponent : Int) : Option Scientific :=
  let num := number.num * power 10 (-exponent)
  let den := number.den * power 10 exponent
  let floor : Scientific := ⟨num / den, exponent⟩
  let ceiling : Scientific := ⟨num / den + 1, exponent⟩
  let nearer : Scientific := ⟨roundQuotient num den, exponent⟩
  if roundsTo number nearer then some nearer
  else if roundsTo number floor then some floor
  else if roundsTo number ceiling then some ceiling
  else none

/-- The first grid with a decimal that rounds to the number, from `exponent` downwards. -/
def firstGrid (number : Binary) (exponent : Int) : Nat → Scientific
  | 0 => ⟨number.significand, number.exponent⟩
  | grids + 1 => (onGrid number exponent).getD (firstGrid number (exponent - 1) grids)

/-- The decimal order of magnitude of a positive quotient, by search from an estimate that is not
too small. -/
def decimalMagnitude (num den : Nat) (estimate : Int) : Nat → Int
  | 0 => estimate
  | steps + 1 =>
    if den * power 10 estimate ≤ num * power 10 (-estimate) then estimate
    else decimalMagnitude num den (estimate - 1) steps

/-- Zeros at the end of the digits go into the exponent. -/
def stripZeros (digits : Nat) (exponent : Int) : Nat → Scientific
  | 0 => ⟨digits, exponent⟩
  | steps + 1 =>
    if digits % 10 = 0 then stripZeros (digits / 10) (exponent + 1) steps else ⟨digits, exponent⟩

/-- Seventeen significant digits are enough for every binary number, so the search ends. -/
def shortest (number : Binary) : Scientific :=
  if number.significand = 0 then ⟨0, 0⟩
  else
    let estimate := (magnitude number.num number.den) * 30103 / 100000 + 2
    let leading := decimalMagnitude number.num number.den estimate 5
    let found := firstGrid number leading 18
    stripZeros found.digits found.exponent 17

end SentenceSampler.Decimal
