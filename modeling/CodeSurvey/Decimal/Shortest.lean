import CodeSurvey.Decimal.Fixed

namespace CodeSurvey

namespace Decimal

/-- `digits · 10 ^ scale`. -/
structure Digits where
  digits : Nat
  scale : Int
  deriving Inhabited, Repr

/-- The quotient `num / den` compared with `digits · 10 ^ scale`. -/
def compareQuotient (num den digits : Nat) (scale : Int) : Ordering :=
  if 0 ≤ scale then compare num (digits * Nat.pow 10 scale.toNat * den)
  else compare (num * Nat.pow 10 (-scale).toNat) (digits * den)

/-- The reals that round to a value, as quotients over one denominator; the ends belong to it exactly
when the mantissa is even. -/
structure Interval where
  low : Nat
  high : Nat
  den : Nat
  closed : Bool

/-- Half the distance to the neighbour on each side, counted in quarters of the last binary place. -/
def Binary.interval (value : Binary) : Interval :=
  let low := 4 * value.mantissa - (if value.narrowBelow then 1 else 2)
  let high := 4 * value.mantissa + 2
  let closed := value.mantissa % 2 == 0
  if 0 ≤ value.exponent then
    let factor := Nat.pow 2 value.exponent.toNat
    { low := low * factor, high := high * factor, den := 4, closed }
  else { low, high, den := 4 * Nat.pow 2 (-value.exponent).toNat, closed }

def Interval.contains (interval : Interval) (digits : Nat) (scale : Int) : Bool :=
  let above := compareQuotient interval.low interval.den digits scale
  let below := compareQuotient interval.high interval.den digits scale
  (above == .lt || (interval.closed && above == .eq)) &&
    (below == .gt || (interval.closed && below == .eq))

/-- The number of digits of a whole number. -/
def digitCount (n : Nat) : Nat :=
  (toString n).length

/-- The power of ten such that `10 ^ (p - 1) ≤ num / den < 10 ^ p`, for a positive quotient. -/
def magnitude (num den : Nat) : Int :=
  let guess : Int := (digitCount num : Int) - digitCount den
  if compareQuotient num den 1 guess == .lt then guess else guess + 1

/-- Which of two decimals is taken when the value lies exactly between them. -/
inductive Tie where
  | up
  | toEven
  deriving DecidableEq, Inhabited, Repr

/-- Whether the upper neighbour of a value above `low` is taken; `position` compares the value with the
point halfway between the two. -/
def Tie.takesUpper (tie : Tie) (low : Nat) (position : Ordering) : Bool :=
  match position with
  | .lt => false
  | .gt => true
  | .eq => tie == .up || low % 2 == 1

/-- The better of the two neighbours of `num / den` on the grid `10 ^ scale`, when one reads back. If any
decimal on the grid does, one of the two does. -/
def onGrid (tie : Tie) (num den : Nat) (interval : Interval) (scale : Int) : Option Digits :=
  let low :=
    if 0 ≤ scale then num / (den * Nat.pow 10 scale.toNat) else num * Nat.pow 10 (-scale).toNat / den
  match interval.contains low scale, interval.contains (low + 1) scale with
  | true, true =>
    -- Both read back: the nearer one, which the midpoint `low + 1/2` decides.
    let position := compareQuotient (2 * num) den (2 * low + 1) scale
    some ⟨if tie.takesUpper low position then low + 1 else low, scale⟩
  | true, false => some ⟨low, scale⟩
  | false, true => some ⟨low + 1, scale⟩
  | false, false => none

/-- Seventeen digits always suffice for binary64. -/
def Binary.shortest (value : Binary) (tie : Tie) : Digits :=
  let (num, den) := value.quotient
  if num == 0 then ⟨0, 0⟩
  else
    let top := magnitude num den
    let grids := (List.range 17).map fun (k : Nat) => top - ((k : Int) + 1)
    (grids.findSome? (onGrid tie num den value.interval)).getD ⟨roundQuotient num den, 0⟩

/-- Digits in positional notation, without a point when the value is whole. -/
def Digits.positional (d : Digits) : String :=
  if 0 ≤ d.scale then toString (d.digits * Nat.pow 10 d.scale.toNat)
  else
    let places := (-d.scale).toNat
    let text := pointed places d.digits
    let trimmed := ((text.toList.reverse.dropWhile (· == '0')).dropWhile (· == '.')).reverse
    String.ofList trimmed

/-- The shortest decimal that reads back as `x`, never with an exponent. -/
def shortest (x : Float) : String :=
  match read x with
  | .notNumber => "NaN"
  | .infinite negative => if negative then "-inf" else "inf"
  | .finite value =>
    let text := (value.shortest .up).positional
    if value.negative then "-" ++ text else text

end Decimal

end CodeSurvey
