import CodeSurvey.Decimal.Binary

namespace CodeSurvey

namespace Decimal

def padStart (width : Nat) (fill : Char) (text : String) : String :=
  String.ofList (List.replicate (width - text.length) fill) ++ text

def padEnd (width : Nat) (fill : Char) (text : String) : String :=
  text ++ String.ofList (List.replicate (width - text.length) fill)

/-- A whole number of units of `10 ^ -places`, written with a point. -/
def pointed (places units : Nat) : String :=
  let whole := toString (units / Nat.pow 10 places)
  if places == 0 then whole
  else whole ++ "." ++ padStart places '0' (toString (units % Nat.pow 10 places))

/-- `x` with exactly `places` decimals. The sign of a negative zero is kept. -/
def fixed (places : Nat) (x : Float) : String :=
  match read x with
  | .notNumber => "NaN"
  | .infinite negative => if negative then "-inf" else "inf"
  | .finite value =>
    let (num, den) := value.quotient
    let text := pointed places (roundQuotient (num * Nat.pow 10 places) den)
    if value.negative then "-" ++ text else text

end Decimal

end CodeSurvey
