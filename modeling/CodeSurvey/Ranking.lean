import CodeSurvey.Name

namespace CodeSurvey

/-- A whole number that orders floating-point numbers totally: negative zero comes before zero, and a
NaN beyond the infinity of its sign. -/
def floatRank (x : Float) : Int :=
  let bits := x.toBits.toNat
  if bits < 0x8000000000000000 then bits else -1 - (bits - 0x8000000000000000 : Nat)

namespace Ranking

/-- Whether `a` may stand before `b`. -/
def before [Ord κ] [Ord ν] (key : α → κ) (tie : α → ν) (a b : α) : Bool :=
  ((compare (key b) (key a)).then (compare (tie a) (tie b))).isLE

def sort [Ord κ] [Ord ν] (key : α → κ) (tie : α → ν) (items : List α) : List α :=
  items.mergeSort (before key tie)

end Ranking

end CodeSurvey
