import CodeSurvey.Proofs.Java.Attribution
import CodeSurvey.Proofs.Words

namespace CodeSurvey

namespace Java

namespace Leaf

/-- The blank space before some leaves, which is left out where a text begins. -/
def gapBefore (inside : Bool) (leaves : List Leaf) : List Char :=
  if inside then leaves.head?.toList.flatMap (·.gap.toList) else []

/-- Leaves one after the other. -/
def written (inside : Bool) : List Leaf → List Char
  | [] => []
  | leaf :: rest => gapBefore inside [leaf] ++ leaf.text.toList ++ written true rest

theorem written_eq (inside : Bool) (leaves : List Leaf) :
    written inside leaves = gapBefore inside leaves ++ written false leaves := by
  cases leaves with
  | nil => cases inside <;> rfl
  | cons leaf rest =>
    rw [written, written, List.append_assoc, List.append_assoc]
    rfl

theorem written_append (inside : Bool) (leaves others : List Leaf) :
    written inside (leaves ++ others) = written inside leaves ++ written (inside || !leaves.isEmpty) others := by
  induction leaves generalizing inside with
  | nil => simp [written]
  | cons leaf leaves ih => simp [written, ih]

theorem toList_foldl (text : String) (leaves : List Leaf) :
    (leaves.foldl (fun text l => text ++ l.gap ++ l.text) text).toList = text.toList ++ written true leaves := by
  induction leaves generalizing text with
  | nil => simp [written]
  | cons leaf leaves ih =>
    rw [List.foldl_cons, ih]
    simp [written, gapBefore]

end Leaf

namespace Tree

/-- The leaves of a tree without their kinds. -/
def contents (tree : Tree) : List Leaf :=
  tree.leaves.map (·.2)

theorem toList_text (tree : Tree) : tree.text.toList = Leaf.written false tree.contents := by
  unfold text contents
  cases tree.leaves with
  | nil => rfl
  | cons first rest =>
    have folded := Leaf.toList_foldl first.2.text (rest.map (·.2))
    rw [List.foldl_map] at folded
    exact folded

/-- Where the text of a tree begins, when that much has been read before it. -/
def start (inside : Bool) (position : Nat) (tree : Tree) : Nat :=
  position + (Leaf.gapBefore inside tree.contents).length

mutual

/-- The comments of a tree that stand in no other, each with the place where it begins. -/
def comments (inside : Bool) (position : Nat) : Tree → List (Nat × Tree)
  | leaf role kind content =>
    if kind.isComment then [((leaf role kind content).start inside position, leaf role kind content)] else []
  | node role kind children =>
    if kind.isComment then
      if (leavesOf children).isEmpty then []
      else [((node role kind children).start inside position, node role kind children)]
    else commentsOf inside position children

def commentsOf (inside : Bool) (position : Nat) : List Tree → List (Nat × Tree)
  | [] => []
  | tree :: trees =>
    comments inside position tree ++
      commentsOf (inside || !tree.contents.isEmpty) (position + (Leaf.written inside tree.contents).length) trees

end

end Tree

/-- A text from a position on, what it is with a space for each comment, and where the comments begin. -/
inductive Lays : Nat → List (Nat × Tree) → List Char → List Char → Prop
  | plain (position : Nat) (text : List Char) : Lays position [] text text
  | comment {position comments text shown} (front : List Char) (comment : Tree)
      (lays : Lays (position + front.length + comment.text.toList.length) comments text shown) :
      Lays position ((position + front.length, comment) :: comments)
        (front ++ comment.text.toList ++ text) (front ++ ' ' :: shown)

namespace Lays

variable {position : Nat} {comments : List (Nat × Tree)} {text shown : List Char}

theorem prepend {front : List Char} (lays : Lays (position + front.length) comments text shown) :
    Lays position comments (front ++ text) (front ++ shown) := by
  cases lays with
  | plain => exact plain _ _
  | comment more comment lays =>
    rw [Nat.add_assoc position, ← List.length_append] at lays ⊢
    rw [List.append_assoc more, ← List.append_assoc front, ← List.append_assoc front,
      ← List.append_assoc (front ++ more)]
    exact .comment _ _ lays

theorem append {comments' : List (Nat × Tree)} {text' shown' : List Char} (lays : Lays position comments text shown)
    (lays' : Lays (position + text.length) comments' text' shown') :
    Lays position (comments ++ comments') (text ++ text') (shown ++ shown') := by
  induction lays with
  | plain position text => exact lays'.prepend
  | comment front comment lays ih =>
    rw [List.length_append, List.length_append, ← Nat.add_assoc, ← Nat.add_assoc] at lays'
    rw [List.append_assoc (front ++ _), List.append_assoc front (_ :: _)]
    exact .comment front comment (ih lays')

theorem shown_mark (lays : Lays position comments text shown) :
    Text.shown (Text.mark position text (comments.map fun c => (c.1, c.1 + c.2.text.toList.length))) = shown := by
  have plain (text : List Char) : Text.shown (text.map some) = text := by
    rw [Text.shown, List.map_map]
    exact List.map_id _
  induction lays with
  | plain position text => exact plain text
  | comment front comment lays ih =>
    rw [List.map_cons, Text.mark_cons, Text.shown, List.map_append, List.map_cons]
    exact congrArg₂ _ (plain front) (congrArg _ ih)

theorem le_start (lays : Lays position comments text shown) : ∀ c ∈ comments, position ≤ c.1 := by
  induction lays with
  | plain => nofun
  | comment front comment lays ih =>
    refine List.forall_mem_cons.mpr ⟨Nat.le_add_right _ _, fun c listed => ?_⟩
    have later := ih c listed
    omega

theorem ordered (lays : Lays position comments text shown) :
    comments.Pairwise fun c d => c.1 + c.2.text.toList.length ≤ d.1 := by
  induction lays with
  | plain => exact List.Pairwise.nil
  | comment front comment lays ih => exact List.pairwise_cons.mpr ⟨lays.le_start, ih⟩

/-- Each comment is what the text reads from the place where the comment begins. -/
theorem stands (lays : Lays position comments text shown) :
    ∀ c ∈ comments, (text.drop (c.1 - position)).take c.2.text.toList.length = c.2.text.toList := by
  induction lays with
  | plain => nofun
  | @comment position comments text shown front comment lays ih =>
    refine List.forall_mem_cons.mpr ⟨?_, fun c listed => ?_⟩
    · rw [Nat.add_sub_cancel_left, List.append_assoc, List.drop_left, List.take_left]
    · have later := lays.le_start c listed
      have past : c.1 - position = (front ++ comment.text.toList).length +
          (c.1 - (position + front.length + comment.text.toList.length)) := by
        rw [List.length_append]
        omega
      rw [past, List.drop_length_add_append]
      exact ih c listed

end Lays

namespace Tree

/-- A comment is laid out as itself, and shown as a space. -/
theorem lays_comment (inside : Bool) (position : Nat) {tree : Tree} {first : Leaf} {rest : List Leaf}
    (split : tree.contents = first :: rest) :
    Lays position [(tree.start inside position, tree)] (Leaf.written inside tree.contents)
      (Leaf.written inside [{ first with text := " " }]) := by
  have laid : Lays position [(tree.start inside position, tree)] _ _ :=
    .comment (Leaf.gapBefore inside tree.contents) tree (.plain _ [])
  rw [List.append_nil, toList_text, ← Leaf.written_eq] at laid
  have shown : Leaf.written inside [{ first with text := " " }] = Leaf.gapBefore inside tree.contents ++ [' '] := by
    simp [Leaf.written, Leaf.gapBefore, split]
  rw [shown]
  exact laid

mutual

/-- The second part says when there is something before the next tree, which needs its gap then. -/
theorem lays_comments (inside : Bool) (position : Nat) : ∀ tree : Tree,
    Lays position (comments inside position tree) (Leaf.written inside tree.contents)
        (Leaf.written inside tree.shownLeaves) ∧
      (tree.shownLeaves = [] ↔ tree.contents = [])
  | leaf role kind content => by
    rw [comments, shownLeaves]
    split
    · exact ⟨lays_comment inside position rfl, by simp [contents, leaves]⟩
    · exact ⟨.plain _ _, by simp [contents, leaves]⟩
  | node role kind children => by
    have below := lays_commentsOf inside position children
    rw [comments, shownLeaves]
    split
    · cases split : leavesOf children with
      | nil =>
        rw [if_pos List.isEmpty_nil, contents, leaves, split]
        exact ⟨.plain _ _, Iff.rfl⟩
      | cons first rest =>
        have split : (node role kind children).contents = first.2 :: rest.map (·.2) := by
          rw [contents, leaves, split, List.map_cons]
        rw [if_neg (by simp)]
        exact ⟨lays_comment inside position split, by simp [split]⟩
    · exact below

theorem lays_commentsOf (inside : Bool) (position : Nat) : ∀ trees : List Tree,
    Lays position (commentsOf inside position trees) (Leaf.written inside ((leavesOf trees).map (·.2)))
        (Leaf.written inside (shownLeavesOf trees)) ∧
      (shownLeavesOf trees = [] ↔ (leavesOf trees).map (·.2) = [])
  | [] => ⟨.plain _ _, Iff.rfl⟩
  | tree :: trees => by
    obtain ⟨lays, empty⟩ := lays_comments inside position tree
    obtain ⟨lays', empty'⟩ := lays_commentsOf (inside || !tree.contents.isEmpty)
      (position + (Leaf.written inside tree.contents).length) trees
    have sameStart : tree.shownLeaves.isEmpty = tree.contents.isEmpty := by
      rw [Bool.eq_iff_iff, List.isEmpty_iff, List.isEmpty_iff, empty]
    rw [commentsOf, leavesOf, shownLeavesOf, List.map_append, Leaf.written_append, Leaf.written_append, sameStart]
    exact ⟨lays.append lays', by rw [List.append_eq_nil_iff, List.append_eq_nil_iff, empty, empty']; rfl⟩

end

theorem leavesOf_eq_flatMap (trees : List Tree) : leavesOf trees = trees.flatMap leaves := by
  induction trees with
  | nil => rfl
  | cons tree trees ih => rw [leavesOf, ih, List.flatMap_cons]

theorem leaves_subset_of_mem_preorder {tree inner : Tree} (below : inner ∈ tree.preorder) :
    inner.leaves ⊆ tree.leaves := by
  cases tree with
  | leaf =>
    cases List.mem_singleton.mp below
    exact List.Subset.refl _
  | node role kind children =>
    rcases mem_preorder_node.mp below with rfl | ⟨child, isChild, below⟩
    · exact List.Subset.refl _
    · have smaller : sizeOf child < sizeOf (node role kind children) := sizeOf_lt_of_mem_children isChild
      intro leaf listed
      rw [leaves, leavesOf_eq_flatMap]
      exact List.mem_flatMap.mpr ⟨child, isChild, leaves_subset_of_mem_preorder below listed⟩
termination_by sizeOf tree

/-- The comments found among some nodes: all that they list are comments, and every comment with text is one of
them or stands in one. -/
structure Finds (nodes : List Tree) (comments : List (Nat × Tree)) : Prop where
  areComments : ∀ c ∈ comments, c.2.kind.isComment ∧ c.2 ∈ nodes
  all : ∀ inner ∈ nodes, inner.kind.isComment → inner.leaves ≠ [] → ∃ c ∈ comments, inner ∈ c.2.preorder

theorem Finds.append {nodes nodes' : List Tree} {comments comments' : List (Nat × Tree)}
    (finds : Finds nodes comments) (finds' : Finds nodes' comments') :
    Finds (nodes ++ nodes') (comments ++ comments') where
  areComments c listed := by
    rcases List.mem_append.mp listed with here | there
    · obtain ⟨isComment, found⟩ := finds.areComments c here
      exact ⟨isComment, List.mem_append_left _ found⟩
    · obtain ⟨isComment, found⟩ := finds'.areComments c there
      exact ⟨isComment, List.mem_append_right _ found⟩
  all inner listed isComment filled := by
    rcases List.mem_append.mp listed with here | there
    · obtain ⟨c, found, within⟩ := finds.all inner here isComment filled
      exact ⟨c, List.mem_append_left _ found, within⟩
    · obtain ⟨c, found, within⟩ := finds'.all inner there isComment filled
      exact ⟨c, List.mem_append_right _ found, within⟩

theorem Finds.self {tree : Tree} (start : Nat) (isComment : tree.kind.isComment) :
    Finds tree.preorder [(start, tree)] where
  areComments := List.forall_mem_singleton.mpr ⟨isComment, self_mem_preorder tree⟩
  all _ within _ _ := ⟨_, List.mem_singleton_self _, within⟩

theorem Finds.plain {tree : Tree} {nodes : List Tree} {comments : List (Nat × Tree)}
    (plain : ¬tree.kind.isComment) (finds : Finds nodes comments) : Finds (tree :: nodes) comments where
  areComments c listed := by
    obtain ⟨isComment, found⟩ := finds.areComments c listed
    exact ⟨isComment, List.mem_cons_of_mem _ found⟩
  all inner listed isComment := by
    rcases List.mem_cons.mp listed with rfl | found
    · exact absurd isComment plain
    · exact finds.all inner found isComment

mutual

theorem finds_comments (inside : Bool) (position : Nat) : ∀ tree : Tree,
    Finds tree.preorder (comments inside position tree)
  | leaf role kind content => by
    rw [comments]
    split
    · next isComment => exact .self _ isComment
    · next plain => exact .plain plain ⟨nofun, nofun⟩
  | node role kind children => by
    rw [comments]
    split
    · next isComment =>
      split
      · next empty =>
        refine ⟨nofun, fun inner below _ filled => absurd ?_ filled⟩
        have within := leaves_subset_of_mem_preorder below
        rw [leaves, List.isEmpty_iff.mp empty] at within
        exact List.subset_nil.mp within
      · exact .self _ isComment
    · next plain => exact .plain plain (finds_commentsOf inside position children)

theorem finds_commentsOf (inside : Bool) (position : Nat) : ∀ trees : List Tree,
    Finds (preorderOf trees) (commentsOf inside position trees)
  | [] => ⟨nofun, nofun⟩
  | tree :: trees => (finds_comments inside position tree).append (finds_commentsOf _ _ trees)

end

/-- The comments of a body, each with the place where it begins in the text of the body. -/
def placedComments (body : Tree) : List (Nat × Tree) :=
  commentsOf false 0 body.children

/-- The text of a body with a mark for each comment. -/
def marked (body : Tree) : List (Option Char) :=
  Text.mark 0 body.text.toList (body.placedComments.map fun c => (c.1, c.1 + c.2.text.toList.length))

/-- The words of a body with a space for each comment, and a space between any two. -/
def bareText (body : Tree) : String :=
  " ".intercalate ((Text.words (Text.shown body.marked)).map String.ofList)

/-- The comments of a body stand in its text in their order, and none is missed. -/
structure Locates (body : Tree) (comments : List (Nat × Tree)) : Prop where
  finds : Finds (preorderOf body.children) comments
  stands : ∀ c ∈ comments, (body.text.toList.drop c.1).take c.2.text.toList.length = c.2.text.toList
  ordered : comments.Pairwise fun c d => c.1 + c.2.text.toList.length ≤ d.1

section Body

variable {body other : Tree}

theorem lays_body (body : Tree) :
    Lays 0 body.placedComments body.text.toList body.textWithoutComments.toList := by
  cases body with
  | leaf => exact .plain _ _
  | node role kind children =>
    have shown : (node role kind children).textWithoutComments.toList =
        Leaf.written false (shownLeavesOf children) := by
      rw [textWithoutComments]
      cases shownLeavesOf children with
      | nil => rfl
      | cons first rest => exact Leaf.toList_foldl first.text rest
    rw [toList_text, shown]
    exact (lays_commentsOf false 0 children).1

theorem locates_placedComments (body : Tree) : body.Locates body.placedComments :=
  ⟨finds_commentsOf _ _ _, body.lays_body.stands, body.lays_body.ordered⟩

theorem toList_textWithoutComments (body : Tree) : body.textWithoutComments.toList = Text.shown body.marked :=
  body.lays_body.shown_mark.symm

theorem normalizeBody_textWithoutComments (body : Tree) :
    Text.normalizeBody body.textWithoutComments = body.bareText := by
  rw [Text.normalizeBody_eq, toList_textWithoutComments, bareText]

theorem bareText_eq_of_squeeze (same : Text.squeeze body.marked = Text.squeeze other.marked) :
    body.bareText = other.bareText := by
  rw [Text.squeeze_eq_collapse, Text.squeeze_eq_collapse, ← toList_textWithoutComments,
    ← toList_textWithoutComments] at same
  rw [← normalizeBody_textWithoutComments, ← normalizeBody_textWithoutComments, Text.normalizeBody, same,
    Text.normalizeBody]

theorem filter_bareText (body : Tree) : (body.bareText.toList.filter fun c => !isBlank c) =
    body.marked.reduceOption.filter fun c => !isBlank c := by
  rw [← normalizeBody_textWithoutComments, Text.filter_normalizeBody, toList_textWithoutComments, Text.filter_shown]

end Body

end Tree

theorem Declaration.body_callable (scope : TypeScope) (inInterface : Bool) (declaration : Tree) :
    (callable scope inInterface declaration).body = (declaration.child? .body).map Tree.bareText := by
  cases found : declaration.child? .body with
  | some body =>
    rw [callable_of_body scope inInterface found, Option.map_some, ← Tree.normalizeBody_textWithoutComments]
  | none => exact (codeless_of_bodiless found).1

/-- What a member keeps of its body is the words of the body, with comments read as blanks. So bodies that differ
in comments and layout only are kept as the same text, and all other text is kept. -/
theorem bodies_keep_all_but_layout (path : String) (unit : Tree) :
    let file := FileContext.ofUnit path unit
    let types := unit.children.flatMap (DeclaredType.declaredBy none)
    extract path unit = types.map (·.entity file) ∧
      (∀ type ∈ types, (type.entity file).callables.map (·.body) =
        (type.declarations.filter Declaration.isCallable).map fun declaration =>
          (declaration.child? .body).map Tree.bareText) ∧
      (∀ body : Tree, body.Locates body.placedComments) ∧
      (∀ body other : Tree, Text.squeeze body.marked = Text.squeeze other.marked → body.bareText = other.bareText) ∧
      ∀ body : Tree, (body.bareText.toList.filter fun c => !isBlank c) =
        body.marked.reduceOption.filter fun c => !isBlank c := by
  intro file types
  refine ⟨rfl, fun type _ => ?_, Tree.locates_placedComments, fun _ _ => Tree.bareText_eq_of_squeeze,
    Tree.filter_bareText⟩
  rw [DeclaredType.callables_entity, List.map_map]
  exact List.map_congr_left fun declaration _ => Declaration.body_callable _ _ declaration

/-- Two methods that differ in comments and layout, with what looks like a comment in a text. -/
def spacedSource : String :=
  "class A \x7b A f() \x7b // one\n  /* two */ return\tg(\"// x\");/* three */\x7d" ++
    " A h() \x7b return g(\"// x\"); \x7d \x7d"

theorem bodies_keep_all_but_layout_spaced :
    ∃ unit, parse? spacedSource = some unit ∧
      ∃ type ∈ unit.children.flatMap (DeclaredType.declaredBy none),
        (type.entity (FileContext.ofUnit "A.java" unit)).callables.map (·.body) =
          [some "\x7b return g(\"// x\"); \x7d", some "\x7b return g(\"// x\"); \x7d"] ∧
        ∃ body ∈ type.declarations.filterMap (·.child? .body),
          body.placedComments.map (fun c => (c.1, c.2.text)) =
            [(2, "// one"), (11, "/* two */"), (38, "/* three */")] ∧
          ∃ other ∈ type.declarations.filterMap (·.child? .body), other.placedComments.map (·.1) = [] ∧
            Text.squeeze body.marked = Text.squeeze other.marked ∧ body.bareText = other.bareText := by
  have evaluated : ∃ unit ∈ (parse? spacedSource).toList,
      ∃ type ∈ unit.children.flatMap (DeclaredType.declaredBy none),
        ((type.declarations.filter Declaration.isCallable).map fun declaration =>
          (declaration.child? .body).map Tree.bareText) =
            [some "\x7b return g(\"// x\"); \x7d", some "\x7b return g(\"// x\"); \x7d"] ∧
        ∃ body ∈ type.declarations.filterMap (·.child? .body),
          body.placedComments.map (fun c => (c.1, c.2.text)) =
            [(2, "// one"), (11, "/* two */"), (38, "/* three */")] ∧
          ∃ other ∈ type.declarations.filterMap (·.child? .body), other.placedComments.map (·.1) = [] ∧
            Text.squeeze body.marked = Text.squeeze other.marked := by
    decide +kernel
  obtain ⟨unit, parsed, type, listed, texts, body, found, comments, other, found', bare, same⟩ := evaluated
  obtain ⟨_, members, _, alike, _⟩ := bodies_keep_all_but_layout "A.java" unit
  exact ⟨unit, Option.mem_toList.mp parsed, type, listed, (members type listed).trans texts, body, found, comments,
    other, found', bare, same, alike body other same⟩

end Java

end CodeSurvey
