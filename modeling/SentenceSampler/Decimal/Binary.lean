/-!
Binary numbers of 53 significant bits, without sign, by exact arithmetic on naturals. The one
operation that loses anything is `nearest`; products and quotients round their exact value once.
-/
namespace SentenceSampler.Decimal

/-- The number `significand * 2 ^ exponent`. Rounding keeps the significand below `2 ^ 53` and the
exponent at least `-1074`, with `2 ^ 52 ≤ significand` above that least exponent. -/
structure Binary where
  significand : Nat
  exponent : Int
deriving DecidableEq, Repr

/-- Significands stay below this. -/
def significandLimit : Nat := Nat.pow 2 53

/-- A power, or one where the exponent is negative; with the opposite exponent it is what the power
is divided by. -/
def power (base : Nat) (exponent : Int) : Nat := Nat.pow base exponent.toNat

/-- A quotient rounded to the nearest natural, a half to the even one. -/
def roundQuotient (num den : Nat) : Nat :=
  let floor := num / den
  let rest := num % den
  if 2 * rest < den then floor
  else if den < 2 * rest then floor + 1
  else if floor % 2 = 0 then floor else floor + 1

/-- The binary order of magnitude of a positive quotient: `2 ^ k ≤ num / den < 2 ^ (k + 1)`. -/
def magnitude (num den : Nat) : Int :=
  let guess : Int := num.log2 - den.log2
  if num * power 2 (-guess) < den * power 2 guess then guess - 1 else guess

namespace Binary

def zero : Binary := ⟨0, -1074⟩

/-- The binary number nearest to a quotient, `none` where only an infinite one would be near. -/
def nearest (num den : Nat) : Option Binary :=
  if num = 0 then some zero
  else
    let exponent := max (-1074) (magnitude num den - 52)
    let rounded := roundQuotient (num * power 2 (-exponent)) (den * power 2 exponent)
    let number : Binary :=
      if rounded = significandLimit then ⟨significandLimit / 2, exponent + 1⟩
      else ⟨rounded, exponent⟩
    if number.exponent ≤ 971 then some number else none

/-- The numerator of the number as a quotient of naturals. -/
def num (number : Binary) : Nat := number.significand * power 2 number.exponent

/-- The denominator of the number as a quotient of naturals. -/
def den (number : Binary) : Nat := power 2 (-number.exponent)

def product (left right : Binary) : Option Binary :=
  nearest (left.num * right.num) (left.den * right.den)

def quotient (left right : Binary) : Option Binary :=
  nearest (left.num * right.den) (left.den * right.num)

/-- The binary number nearest to a power of ten. -/
def powerOfTen (exponent : Nat) : Option Binary := nearest (Nat.pow 10 exponent) 1

/-- A small number is divided by the largest power of ten in range until the rest of the exponent
is one too, or until it is zero. -/
def lower (number : Binary) (exponent : Nat) : Option Binary :=
  if exponent ≤ 308 then do number.quotient (← powerOfTen exponent)
  else if number.significand = 0 then some number
  else do (← number.quotient (← powerOfTen 308)).lower (exponent - 308)
termination_by exponent

/-- The digits are rounded to a binary number first, which is then multiplied or divided by a
rounded power of ten; `none` stands for a number out of range. -/
def ofScientific (digits : Nat) (exponent : Int) : Option Binary := do
  let number ← nearest digits 1
  if exponent < 0 then number.lower (-exponent).toNat
  else if exponent ≤ 308 then number.product (← powerOfTen exponent.toNat)
  else if number.significand = 0 then some number
  else none

end Binary

end SentenceSampler.Decimal
