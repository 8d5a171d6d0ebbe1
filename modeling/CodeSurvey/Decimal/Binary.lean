namespace CodeSurvey

namespace Decimal

/-- The value `mantissa · 2 ^ exponent`, negated when `negative`. `narrowBelow` says that the next
smaller magnitude is only half as far away as the next larger one. -/
structure Binary where
  negative : Bool
  mantissa : Nat
  exponent : Int
  narrowBelow : Bool
  deriving Inhabited, Repr

inductive Reading where
  | notNumber
  | infinite (negative : Bool)
  | finite (value : Binary)
  deriving Inhabited, Repr

/-- Takes a binary64 number apart: 1 sign bit, 11 bits of biased exponent, 52 bits of fraction. -/
def read (x : Float) : Reading :=
  let bits := x.toBits.toNat
  let negative := bits / 0x8000000000000000 == 1
  let biased : Nat := bits / 0x10000000000000 % 0x800
  let fraction := bits % 0x10000000000000
  if biased == 2047 then
    if fraction == 0 then .infinite negative else .notNumber
  else if biased == 0 then
    .finite { negative, mantissa := fraction, exponent := -1074, narrowBelow := false }
  else
    .finite
      { negative, mantissa := 0x10000000000000 + fraction, exponent := (biased : Int) - 1075,
        narrowBelow := fraction == 0 && 1 < biased }

/-- The whole number nearest to `num / den`; a tie goes to the even one. -/
def roundQuotient (num den : Nat) : Nat :=
  let low := num / den
  let twice := 2 * (num % den)
  if twice < den then low
  else if den < twice then low + 1
  else if low % 2 == 0 then low else low + 1

/-- A magnitude as a quotient of natural numbers. -/
def Binary.quotient (value : Binary) : Nat × Nat :=
  if 0 ≤ value.exponent then (value.mantissa * Nat.pow 2 value.exponent.toNat, 1)
  else (value.mantissa, Nat.pow 2 (-value.exponent).toNat)

end Decimal

end CodeSurvey
