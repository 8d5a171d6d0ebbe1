import CodeSurvey.Json.Reader

namespace CodeSurvey

namespace Decimal

open Json (isDigitChar decimalValue)

/-- A sign, when one stands in front, and what follows it. -/
def splitSign : List Char → Bool × List Char
  | '-' :: rest => (true, rest)
  | '+' :: rest => (false, rest)
  | cs => (false, cs)

def infinity (negative : Bool) : Float :=
  if negative then -1.0 / 0.0 else 1.0 / 0.0

/-- The binary64 number nearest to `mantissa · 10 ^ exponent`, none when it is out of range. Far below the least
exponent that matters the value is zero, and far above the largest it is out of range. -/
def nearest? (negative : Bool) (mantissa : Nat) (exponent : Int) : Option Float :=
  let size : Int := (toString mantissa).length
  if mantissa == 0 || size + exponent < -400 then some (if negative then -0.0 else 0.0)
  else if 400 < size + exponent then none
  else
    let x :=
      if 0 ≤ exponent then Float.ofScientific mantissa false exponent.toNat
      else Float.ofScientific mantissa true (-exponent).toNat
    if x.isInf then none else some (if negative then -x else x)

/-- The words for values that are not finite, in upper or lower case. -/
def ofWord? (negative : Bool) (cs : List Char) : Option Float :=
  let word := String.ofList (cs.map Char.toLower)
  if word == "inf" || word == "infinity" then some (infinity negative)
  else if word == "nan" then some (0.0 / 0.0)
  else none

/-- The power of ten that ends a numeral. -/
def exponent? : List Char → Option Int
  | [] => some 0
  | mark :: rest =>
    let (negative, digits) := splitSign rest
    if (mark == 'e' || mark == 'E') && !digits.isEmpty && digits.all isDigitChar then
      let n : Int := decimalValue digits
      some (if negative then -n else n)
    else none

/-- Digits with at most one point, then perhaps a power of ten. What is out of range is infinite. -/
def ofDigits? (negative : Bool) (cs : List Char) : Option Float := do
  let whole := cs.takeWhile isDigitChar
  let (fraction, rest) := match cs.dropWhile isDigitChar with
    | '.' :: rest => (rest.takeWhile isDigitChar, rest.dropWhile isDigitChar)
    | rest => ([], rest)
  guard !(whole.isEmpty && fraction.isEmpty)
  let exponent ← exponent? rest
  return (nearest? negative (decimalValue (whole ++ fraction))
    (exponent - fraction.length)).getD (infinity negative)

def real? (text : String) : Option Float :=
  let (negative, rest) := splitSign text.toList
  (ofWord? negative rest).or (ofDigits? negative rest)

/-- A count that 64 bits hold; a plus may stand in front. -/
def count? (text : String) : Option Nat :=
  let digits := match text.toList with
    | '+' :: rest => rest
    | cs => cs
  if !digits.isEmpty && digits.all isDigitChar && decimalValue digits < 0x10000000000000000 then
    some (decimalValue digits)
  else none

end Decimal

end CodeSurvey
