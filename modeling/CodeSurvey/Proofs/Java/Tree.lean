import Mathlib.Data.List.Basic
import CodeSurvey.Java.Tree

namespace CodeSurvey

namespace Java

namespace Tree

theorem preorderOf_eq_flatMap (trees : List Tree) : preorderOf trees = trees.flatMap preorder := by
  induction trees with
  | nil => rfl
  | cons tree trees ih => rw [preorderOf, ih, List.flatMap_cons]

theorem preorder_eq (tree : Tree) : tree.preorder = tree :: tree.children.flatMap preorder := by
  cases tree with
  | leaf => rfl
  | node => rw [preorder, preorderOf_eq_flatMap, children]

theorem mem_preorder_node {tree : Tree} {role : Role} {kind : Kind} {children : List Tree} :
    tree ∈ (node role kind children).preorder ↔
      tree = node role kind children ∨ ∃ child ∈ children, tree ∈ child.preorder := by
  rw [preorder, preorderOf_eq_flatMap, List.mem_cons, List.mem_flatMap]

theorem self_mem_preorder (tree : Tree) : tree ∈ tree.preorder := by
  cases tree with
  | leaf => exact List.mem_singleton_self _
  | node => exact mem_preorder_node.mpr (Or.inl rfl)

theorem mem_preorder_of_child {tree child inner : Tree} (isChild : child ∈ tree.children)
    (below : inner ∈ child.preorder) : inner ∈ tree.preorder := by
  cases tree with
  | leaf => cases isChild
  | node => exact mem_preorder_node.mpr (Or.inr ⟨child, isChild, below⟩)

mutual

theorem preorder_trans {inner middle : Tree} : ∀ {outer : Tree}, inner ∈ middle.preorder →
    middle ∈ outer.preorder → inner ∈ outer.preorder
  | leaf _ _ _, below, inside => by
    cases List.mem_singleton.mp inside
    exact below
  | node _ _ children, below, inside => by
    rw [preorder] at inside ⊢
    rcases List.mem_cons.mp inside with rfl | within
    · exact below
    · exact List.mem_cons_of_mem _ (preorderOf_trans below within)

theorem preorderOf_trans {inner middle : Tree} : ∀ {trees : List Tree}, inner ∈ middle.preorder →
    middle ∈ preorderOf trees → inner ∈ preorderOf trees
  | [], _, inside => by cases inside
  | tree :: trees, below, inside => by
    rw [preorderOf] at inside ⊢
    rcases List.mem_append.mp inside with first | later
    · exact List.mem_append_left _ (preorder_trans below first)
    · exact List.mem_append_right _ (preorderOf_trans below later)

end

@[simp] theorem role_withRole (role : Role) (tree : Tree) : (tree.withRole role).role = role := by
  cases tree <;> rfl

theorem child?_eq_head? (tree : Tree) (role : Role) : tree.child? role = (tree.childrenAs role).head? :=
  List.head?_filter.symm

theorem mem_children_of_child? {tree child : Tree} {role : Role} (found : tree.child? role = some child) :
    child ∈ tree.children :=
  List.mem_of_find?_eq_some found

theorem sizeOf_lt_of_mem_children {tree child : Tree} (isChild : child ∈ tree.children) :
    sizeOf child < sizeOf tree := by
  cases tree with
  | leaf => cases isChild
  | node role kind children =>
    have smaller := List.sizeOf_lt_of_mem isChild
    simp only [Tree.children, Tree.node.sizeOf_spec] at smaller ⊢
    omega

/-- A comment, as it stands between the parts of a node. -/
def IsComment (tree : Tree) : Prop :=
  ∃ kind content, kind.isComment ∧ tree = .leaf .none kind content

theorem IsComment.role_eq_none {tree : Tree} (comment : tree.IsComment) : tree.role = .none := by
  obtain ⟨kind, content, _, rfl⟩ := comment
  rfl

end Tree

section Roles

variable {trees : List Tree} {role : Role}

theorem filter_role_of_none (playing : role ≠ .none)
    (plain : ∀ tree ∈ trees, tree.role = .none) : trees.filter (·.role == role) = [] := by
  refine List.filter_eq_nil_iff.mpr fun tree member => ?_
  rw [plain tree member]
  simpa using playing.symm

theorem exists_head?_filter_role {tree : Tree} (member : tree ∈ trees)
    (plays : tree.role = role) : ∃ found, (trees.filter (·.role == role)).head? = some found := by
  have nonempty : trees.filter (·.role == role) ≠ [] :=
    List.ne_nil_of_mem (List.mem_filter.mpr ⟨member, beq_iff_eq.mpr plays⟩)
  exact ⟨_, List.head?_eq_some_head nonempty⟩

end Roles

end Java

end CodeSurvey
