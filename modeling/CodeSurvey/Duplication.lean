import CodeSurvey.Config.Basic
import CodeSurvey.Digest.Sha256
import CodeSurvey.Entity.Model
import CodeSurvey.Ranking

namespace CodeSurvey

/-- Numbers for measuring likeness; `rank` orders them totally. -/
class Scale (κ : Type) where
  ofNat : Nat → κ
  add : κ → κ → κ
  sub : κ → κ → κ
  mul : κ → κ → κ
  div : κ → κ → κ
  less : κ → κ → Bool
  atMost : κ → κ → Bool
  rank : κ → κ → Ordering

instance : Scale Float where
  ofNat := Float.ofNat
  add := (· + ·)
  sub := (· - ·)
  mul := (· * ·)
  div := (· / ·)
  less a b := a < b
  atMost a b := a ≤ b
  rank a b := compare (floatRank a) (floatRank b)

namespace EditDistance

/-- The rest of a row of the distance table: `left` is the entry before, `corner` the one above that,
and `above` the row above from here on. -/
def extendRow (c : Char) : Nat → Nat → List Char → List Nat → List Nat
  | left, corner, d :: ds, up :: above =>
    let here := min (min (left + 1) (up + 1)) (corner + if c = d then 0 else 1)
    here :: extendRow c here up ds above
  | _, _, _, _ => []

/-- The row of the table after one more character of the first text. -/
def nextRow (ds : List Char) (row : List Nat) (c : Char) : List Nat :=
  match row with
  | [] => []
  | corner :: above => (corner + 1) :: extendRow c (corner + 1) corner ds above

/-- The least number of insertions, deletions and replacements that make one text the other. -/
def distance (cs ds : List Char) : Nat :=
  (cs.foldl (nextRow ds) (List.range (ds.length + 1))).getLastD 0

end EditDistance

/-- The share of characters that two texts have in common, 1 for two empty texts. -/
def similarity (κ : Type) [Scale κ] (a b : String) : κ :=
  let longest := max a.length b.length
  if longest = 0 then Scale.ofNat 1
  else Scale.sub (Scale.ofNat 1)
    (Scale.div (Scale.ofNat (EditDistance.distance a.toList b.toList)) (Scale.ofNat longest))

/-- A body offered for comparison. -/
structure MethodBody where
  id : String
  body : String
  lineCount : Nat
  complexity : Nat
  deriving DecidableEq, Inhabited, Repr

/-- Everything that can be called and has a body, ordered by id. -/
def Model.bodies (model : Model) : List MethodBody :=
  let found := model.toList.flatMap fun entity =>
    entity.callables.filterMap fun member =>
      member.body.map fun body =>
        { id := entity.memberId member, body, lineCount := member.lineCount
          complexity := max member.complexity 1 : MethodBody }
  found.mergeSort fun a b => (compare a.id b.id).isLE

inductive DuplicationKind where
  | exact
  | similar
  deriving DecidableEq, Inhabited, Repr

def DuplicationKind.text : DuplicationKind → String
  | exact => "exact"
  | similar => "similar"

/-- Methods with equal bodies, or two with similar ones. -/
structure DuplicationGroup (κ : Type) where
  kind : DuplicationKind
  members : List String
  lineCount : Nat
  similarity : κ
  impact : κ

/-- The lines that merging the group into one method would save. -/
def DuplicationGroup.duplicatedLines (group : DuplicationGroup κ) : Nat :=
  group.lineCount * (group.members.length - 1)

/-- The pairs of two items of a list, the first standing before the second. -/
def orderedPairs : List α → List (α × α)
  | [] => []
  | item :: rest => rest.map (item, ·) ++ orderedPairs rest

/-- How much is compared, and from which likeness on. -/
structure DuplicationLimits (κ : Type) where
  threshold : κ
  minBodyLength : Nat
  detectSimilar : Bool

namespace Duplication

/-- A body with its length and, if it is long enough to be compared for equality, its digest. -/
structure Entry where
  method : MethodBody
  length : Nat
  digest : Option String

def Entry.ofBody (minBodyLength : Nat) (method : MethodBody) : Entry :=
  let length := method.body.length
  { method, length
    digest := if minBodyLength < length then some (Digest.sha256 method.body) else none }

/-- The weight of a group in the report. -/
def impact [Scale κ] (size lineCount : Nat) (complexity : κ) : κ :=
  Scale.mul (Scale.mul (Scale.ofNat size) (Scale.ofNat lineCount))
    (Scale.add (Scale.ofNat 1) (Scale.div complexity (Scale.ofNat 10)))

/-- The entries that have a digest, by digest, in their order. -/
def byDigest (entries : List Entry) : NameMap (List Entry) :=
  entries.foldl (fun groups entry =>
    match entry.digest with
    | some digest => groups.alter digest fun group => some (group.getD [] ++ [entry])
    | none => groups) ∅

def exactGroup [Scale κ] (entries : List Entry) : DuplicationGroup κ :=
  let total := entries.foldl (fun (sum : κ) e => Scale.add sum (Scale.ofNat e.method.complexity))
    (Scale.ofNat 0)
  let lineCount := (entries.head?.map (·.method.lineCount)).getD 0
  { kind := .exact
    members := entries.map (·.method.id)
    lineCount
    similarity := Scale.ofNat 1
    impact := impact entries.length lineCount (Scale.div total (Scale.ofNat entries.length)) }

def exactGroups [Scale κ] (entries : List Entry) : List (DuplicationGroup κ) :=
  ((byDigest entries).values.filter fun group => 1 < group.length).map exactGroup

/-- Whether two entries are in the same exact group. -/
def sameDigest (a b : Entry) : Bool :=
  match a.digest, b.digest with
  | some d, some e => d == e
  | _, _ => false

/-- Whether two lengths alone rule a likeness above the threshold out: no more characters can be common
than the shorter text has. -/
def tooDifferent [Scale κ] (threshold : κ) (m n : Nat) : Bool :=
  let longest := max m n
  longest == 0 ||
    Scale.atMost (Scale.div (Scale.ofNat (min m n)) (Scale.ofNat longest)) threshold

def similarGroup [Scale κ] (a b : MethodBody) (likeness : κ) : DuplicationGroup κ :=
  let lineCount := (a.lineCount + b.lineCount) / 2
  let complexity : κ := Scale.div (Scale.ofNat (a.complexity + b.complexity)) (Scale.ofNat 2)
  { kind := .similar
    members := [a.id, b.id]
    lineCount
    similarity := likeness
    impact := Scale.mul (impact 2 lineCount complexity) likeness }

/-- The group that two entries form when they are alike but not equal. -/
def compare? [Scale κ] (threshold : κ) (a b : Entry) : Option (DuplicationGroup κ) :=
  if sameDigest a b || tooDifferent threshold a.length b.length then none
  else
    let likeness := similarity κ a.method.body b.method.body
    if Scale.less threshold likeness && Scale.less likeness (Scale.ofNat 1) then
      some (similarGroup a.method b.method likeness)
    else none

def similarGroups [Scale κ] (threshold : κ) (entries : List Entry) : List (DuplicationGroup κ) :=
  (orderedPairs entries).filterMap fun pair => compare? threshold pair.1 pair.2

/-- All groups, those with the greatest impact first. -/
def detect [Scale κ] (limits : DuplicationLimits κ) (bodies : List MethodBody) :
    List (DuplicationGroup κ) :=
  let entries := bodies.map (Entry.ofBody limits.minBodyLength)
  let similar := if limits.detectSimilar then similarGroups limits.threshold entries else []
  (exactGroups entries ++ similar).mergeSort fun a b =>
    ((Scale.rank b.impact a.impact).then (compare a.members b.members)).isLE

def ofConfig (config : DuplicationConfig) : DuplicationLimits Float :=
  ⟨config.similarityThreshold, config.minBodyLength, config.detectSimilar⟩

/-- The methods that are in some group. -/
def methods (groups : List (DuplicationGroup κ)) : NameSet :=
  Std.ExtTreeSet.ofList (groups.flatMap (·.members)) compare

end Duplication

end CodeSurvey
