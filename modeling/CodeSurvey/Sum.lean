namespace CodeSurvey

/-- The sum of a count over the items of a list. -/
def sumOf (count : α → Nat) : List α → Nat
  | [] => 0
  | item :: rest => count item + sumOf count rest

end CodeSurvey
