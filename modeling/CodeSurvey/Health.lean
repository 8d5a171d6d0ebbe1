import CodeSurvey.Metrics

namespace CodeSurvey

inductive HealthGrade where
  | a
  | b
  | c
  | d
  | f
  deriving DecidableEq, Inhabited, Repr

namespace HealthGrade

def text : HealthGrade → String
  | a => "A"
  | b => "B"
  | c => "C"
  | d => "D"
  | f => "F"

def ofScore (score : Float) : HealthGrade :=
  if score ≥ 90.0 then .a
  else if score ≥ 80.0 then .b
  else if score ≥ 70.0 then .c
  else if score ≥ 60.0 then .d
  else .f

end HealthGrade

inductive RiskLevel where
  | high
  | medium
  | low
  deriving DecidableEq, Inhabited, Repr

def RiskLevel.text : RiskLevel → String
  | high => "high"
  | medium => "medium"
  | low => "low"

structure Risk where
  level : RiskLevel
  category : String
  description : String
  mitigation : String
  deriving DecidableEq, Inhabited, Repr

structure Health where
  score : Float
  grade : HealthGrade
  recommendations : List String
  risks : List Risk

namespace Health

/-- Half of the score is for few cycles and duplicates, half for maintainability. -/
def scoreOf (cycles groups : Nat) (maintainability : Float) : Float :=
  let structural := 100.0 - 5.0 * Float.ofNat cycles - 2.0 * Float.ofNat groups
  let structural := if structural > 0.0 then structural else 0.0
  clampFloat 0.0 100.0 (0.5 * structural + 0.5 * maintainability)

def when (condition : Bool) (item : α) : List α :=
  if condition then [item] else []

def recommendationsFor (cycles groups : Nat) (project : ProjectMetrics) : List String :=
  when (0 < cycles) "Refactor circular dependencies to improve architecture" ++
  when (0 < groups) "Extract common code to reduce duplication" ++
  when (project.averageComplexity > 10.0)
    "Refactor complex methods to reduce cyclomatic complexity" ++
  when (project.averageMaintainability < 50.0)
    "Improve maintainability by splitting large classes and reducing coupling" ++
  when (0 < project.unusedClasses || 0 < project.unusedMethods)
    s!"Remove unused code ({project.unusedClasses} classes, {project.unusedMethods} methods)"

def risksFor (cycles : Nat) (project : ProjectMetrics) : List Risk :=
  when (0 < cycles) {
    level := .high
    category := "Architecture"
    description := s!"{cycles} circular dependencies detected"
    mitigation := "Break dependency cycles by introducing interfaces" } ++
  when (project.averageComplexity > 15.0) {
    level := .medium
    category := "Complexity"
    description := "High average cyclomatic complexity"
    mitigation := "Simplify complex methods" } ++
  when (0 < project.unusedClasses || 0 < project.unusedMethods) {
    level := .low
    category := "Dead code"
    description := "Unreferenced classes or methods"
    mitigation := "Delete or document the unused code" }

def assess (cycles groups : Nat) (project : ProjectMetrics) : Health :=
  let score := scoreOf cycles groups project.averageMaintainability
  { score
    grade := .ofScore score
    recommendations := recommendationsFor cycles groups project
    risks := risksFor cycles project }

end Health

end CodeSurvey
