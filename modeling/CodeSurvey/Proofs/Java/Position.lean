import Mathlib.Data.List.Infix
import Mathlib.Data.List.Nodup
import CodeSurvey.Proofs.Java.Tree

namespace CodeSurvey

namespace Java

/-- A tree at its place in a larger one. -/
structure Node where
  address : List Nat
  tree : Tree

namespace Node

/-- A whole tree. -/
def top (tree : Tree) : Node :=
  ⟨[], tree⟩

def children (node : Node) : List Node :=
  node.tree.children.zipIdx.map fun (child, i) => ⟨node.address ++ [i], child⟩

def namedChildren (node : Node) : List Node :=
  node.children.filter (·.tree.isNamed)

def child? (node : Node) (role : Role) : Option Node :=
  node.children.find? (·.tree.role == role)

def childrenAs (node : Node) (role : Role) : List Node :=
  node.children.filter (·.tree.role == role)

section Forget

variable (node : Node)

@[simp] theorem map_tree_children : node.children.map tree = node.tree.children := by
  rw [children, List.map_map]
  exact List.zipIdx_map_fst 0 _

@[simp] theorem map_tree_namedChildren : node.namedChildren.map tree = node.tree.namedChildren := by
  rw [namedChildren, Tree.namedChildren, ← map_tree_children, List.filter_map]
  rfl

@[simp] theorem map_tree_child? (role : Role) : (node.child? role).map tree = node.tree.child? role := by
  rw [child?, Tree.child?, ← map_tree_children, List.find?_map]
  rfl

@[simp] theorem map_tree_childrenAs (role : Role) :
    (node.childrenAs role).map tree = node.tree.childrenAs role := by
  rw [childrenAs, Tree.childrenAs, ← map_tree_children, List.filter_map]
  rfl

end Forget

theorem tree_mem_children {node child : Node} (isChild : child ∈ node.children) :
    child.tree ∈ node.tree.children := by
  rw [← map_tree_children]
  exact List.mem_map_of_mem isChild

theorem mem_children_of_child? {node child : Node} {role : Role} (found : node.child? role = some child) :
    child ∈ node.children :=
  List.mem_of_find?_eq_some found

theorem sizeOf_lt_of_mem_children {node child : Node} (isChild : child ∈ node.children) :
    sizeOf child.tree < sizeOf node.tree :=
  Tree.sizeOf_lt_of_mem_children (tree_mem_children isChild)

/-- The node and all below it, a node before its children. -/
def nodes (node : Node) : List Node :=
  node :: node.children.attach.flatMap fun child => child.1.nodes
termination_by sizeOf node.tree
decreasing_by exact sizeOf_lt_of_mem_children child.2

theorem nodes_eq (node : Node) : node.nodes = node :: node.children.flatMap nodes := by
  rw [nodes, List.flatMap_subtype fun _ _ => rfl, List.unattach_attach]

theorem self_mem_nodes (node : Node) : node ∈ node.nodes := by
  rw [nodes_eq]
  exact List.mem_cons_self

theorem nodes_child_subset {node child : Node} (isChild : child ∈ node.children) :
    child.nodes ⊆ node.nodes := by
  intro other below
  rw [nodes_eq]
  exact List.mem_cons_of_mem _ (List.mem_flatMap.mpr ⟨child, isChild, below⟩)

theorem map_tree_nodes (node : Node) : node.nodes.map tree = node.tree.preorder := by
  induction node using nodes.induct with
  | case1 node ih =>
    have below : node.children.flatMap (fun child => child.nodes.map tree) =
        node.children.flatMap fun child => child.tree.preorder :=
      List.flatMap_congr fun child isChild => ih ⟨child, isChild⟩
    rw [nodes_eq, List.map_cons, List.map_flatMap, below, Tree.preorder_eq, ← map_tree_children,
      List.flatMap_map]

/-- The addresses of the nodes. -/
def addresses (node : Node) : List (List Nat) :=
  node.nodes.map address

/-- The address of one node leads towards that of another. -/
def Leads (node other : Node) : Prop :=
  node.address <+: other.address

/-- Neither of two nodes is on the way to the other. -/
structure Apart (node other : Node) : Prop where
  forth : ¬node.Leads other
  back : ¬other.Leads node

section Below

variable {node other inner : Node}

theorem Leads.refl (node : Node) : node.Leads node :=
  List.prefix_refl _

theorem Leads.trans (forth : node.Leads other) (further : other.Leads inner) : node.Leads inner :=
  List.IsPrefix.trans forth further

/-- What is below the one of two nodes that stand apart is apart from what is below the other. -/
theorem Apart.mono {node' other' : Node} (apart : node.Apart other) (forth : node.Leads node')
    (back : other.Leads other') : node'.Apart other' := by
  constructor
  · intro leads
    rcases List.prefix_or_prefix_of_prefix (forth.trans leads) back with below | above
    · exact apart.forth below
    · exact apart.back above
  · intro leads
    rcases List.prefix_or_prefix_of_prefix (back.trans leads) forth with below | above
    · exact apart.back below
    · exact apart.forth above

theorem Apart.address_ne (apart : node.Apart other) : node.address ≠ other.address := by
  intro same
  refine apart.forth ?_
  rw [Leads, same]

theorem Apart.symm (apart : node.Apart other) : other.Apart node :=
  ⟨apart.back, apart.forth⟩

theorem length_address_of_mem_children {child : Node} (isChild : child ∈ node.children) :
    child.address.length = node.address.length + 1 := by
  obtain ⟨_, _, rfl⟩ := List.mem_map.mp isChild
  exact List.length_append

theorem leads_of_mem_children {child : Node} (isChild : child ∈ node.children) : node.Leads child := by
  obtain ⟨_, _, rfl⟩ := List.mem_map.mp isChild
  exact List.prefix_append _ _

theorem children_apart (node : Node) : node.children.Pairwise Apart := by
  have ascending : (node.tree.children.zipIdx.map Prod.snd).Pairwise (· < ·) := by
    rw [List.zipIdx_map_snd]
    exact List.pairwise_lt_range' 1
  refine List.pairwise_map.mpr ((List.pairwise_map.mp ascending).imp fun {entry other} before => ?_)
  have different : ∀ i j : Nat, i ≠ j → ¬node.address ++ [i] <+: node.address ++ [j] := by
    intro i j distinct leads
    rw [List.prefix_append_right_inj, List.singleton_prefix_cons_iff] at leads
    exact distinct leads
  exact ⟨different _ _ before.ne, different _ _ before.ne'⟩

theorem leads_of_mem_nodes (below : inner ∈ node.nodes) : node.Leads inner := by
  induction node using nodes.induct with
  | case1 node ih =>
    rw [nodes_eq] at below
    rcases List.mem_cons.mp below with rfl | deeper
    · exact Leads.refl _
    · obtain ⟨child, isChild, below⟩ := List.mem_flatMap.mp deeper
      exact (leads_of_mem_children isChild).trans (ih ⟨child, isChild⟩ below)

theorem Apart.disjoint_addresses (apart : node.Apart other) : node.addresses.Disjoint other.addresses := by
  intro address listed listed'
  obtain ⟨inner, below, rfl⟩ := List.mem_map.mp listed
  obtain ⟨inner', below', same⟩ := List.mem_map.mp listed'
  exact (apart.mono (leads_of_mem_nodes below) (leads_of_mem_nodes below')).address_ne same.symm

/-- Addresses tell all nodes apart. -/
theorem addresses_nodup (node : Node) : node.addresses.Nodup := by
  induction node using nodes.induct with
  | case1 node ih =>
    rw [addresses, nodes_eq, List.map_cons, List.map_flatMap]
    refine List.nodup_cons.mpr ⟨fun listed => ?_, List.nodup_flatMap.mpr ⟨fun child isChild => ?_, ?_⟩⟩
    · obtain ⟨child, isChild, listed⟩ := List.mem_flatMap.mp listed
      obtain ⟨inner, below, same⟩ := List.mem_map.mp listed
      have longer := length_address_of_mem_children isChild
      have shorter := (leads_of_mem_nodes below).length_le
      rw [same] at shorter
      omega
    · exact ih ⟨child, isChild⟩
    · exact node.children_apart.imp fun apart => apart.disjoint_addresses

theorem nodes_subset_of_mem (below : other ∈ node.nodes) : other.nodes ⊆ node.nodes := by
  induction node using nodes.induct with
  | case1 node ih =>
    rw [nodes_eq] at below
    rcases List.mem_cons.mp below with rfl | deeper
    · exact List.Subset.refl _
    · obtain ⟨child, isChild, below⟩ := List.mem_flatMap.mp deeper
      exact List.Subset.trans (ih ⟨child, isChild⟩ below) (nodes_child_subset isChild)

end Below

/-- Nodes below another one that stand apart from each other. -/
structure Holds (node : Node) (pieces : List Node) : Prop where
  apart : pieces.Pairwise Apart
  below : ∀ piece ∈ pieces, piece ∈ node.nodes

namespace Holds

variable {node : Node} {pieces others : List Node}

theorem nil (node : Node) : node.Holds [] :=
  ⟨List.Pairwise.nil, fun _ member => by cases member⟩

theorem self (node : Node) : node.Holds [node] := by
  refine ⟨List.pairwise_singleton _ _, fun piece member => ?_⟩
  cases List.mem_singleton.mp member
  exact node.self_mem_nodes

theorem children (node : Node) : node.Holds node.children :=
  ⟨node.children_apart, fun child isChild => nodes_child_subset isChild child.self_mem_nodes⟩

theorem sublist (holds : node.Holds pieces) (kept : others.Sublist pieces) : node.Holds others :=
  ⟨holds.apart.sublist kept, fun piece member => holds.below piece (kept.subset member)⟩

theorem perm (holds : node.Holds pieces) (same : others.Perm pieces) : node.Holds others :=
  ⟨(same.pairwise_iff fun apart => apart.symm).mpr holds.apart,
    fun piece member => holds.below piece (same.mem_iff.mp member)⟩

/-- Pieces of pieces are pieces. -/
theorem flatMap {parts : Node → List Node} (holds : node.Holds pieces)
    (each : ∀ piece ∈ pieces, piece.Holds (parts piece)) : node.Holds (pieces.flatMap parts) := by
  constructor
  · refine List.pairwise_flatMap.mpr ⟨fun piece member => (each piece member).apart, ?_⟩
    refine holds.apart.imp_of_mem fun {piece other} member member' apart => ?_
    intro part inPiece part' inOther
    exact apart.mono (leads_of_mem_nodes ((each piece member).below part inPiece))
      (leads_of_mem_nodes ((each other member').below part' inOther))
  · intro part inside
    obtain ⟨piece, member, inPiece⟩ := List.mem_flatMap.mp inside
    exact nodes_subset_of_mem (holds.below piece member) ((each piece member).below part inPiece)

theorem namedChildren (node : Node) : node.Holds node.namedChildren :=
  (children node).sublist List.filter_sublist

theorem childrenAs (node : Node) (role : Role) : node.Holds (node.childrenAs role) :=
  (children node).sublist List.filter_sublist

theorem child? (node : Node) (role : Role) : node.Holds (node.child? role).toList := by
  refine (childrenAs node role).sublist ?_
  rw [Node.child?, Node.childrenAs, ← List.head?_filter, ← List.take_one]
  exact List.take_sublist _ _

/-- No node is below two pieces. -/
theorem addresses_nodup (holds : node.Holds pieces) : (pieces.flatMap addresses).Nodup :=
  List.nodup_flatMap.mpr
    ⟨fun piece _ => piece.addresses_nodup, holds.apart.imp fun apart => apart.disjoint_addresses⟩

theorem nodes_subset (holds : node.Holds pieces) : pieces.flatMap nodes ⊆ node.nodes := by
  intro inner below
  obtain ⟨piece, member, below⟩ := List.mem_flatMap.mp below
  exact nodes_subset_of_mem (holds.below piece member) below

end Holds

end Node

end Java

end CodeSurvey
