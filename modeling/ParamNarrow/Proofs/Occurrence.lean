import ParamNarrow.Syntax.Walk
import Mathlib.Tactic.CasesM
/-!
# Occurrences in a syntax tree

`Node.Occurs m n` says that `m` is a subtree of `n`: `n` itself, or a subtree of one of its
children, where `Node.children` is the only account of what a node contains. The analyses of a
function body go through `Node.preorder`, which recurses over the fields of each constructor
itself. The walk is the tree's occurrences and nothing else (`mem_preorder_iff`): what the walk
finds is in the tree, and whatever stands in the tree, however deep, is on the walk.
-/

namespace ParamNarrow

namespace Node

/-- `m` occurs in `n`: it is `n`, or it occurs in a child of `n`. -/
inductive Occurs : Node → Node → Prop
  | here (n : Node) : Occurs n n
  | child {m c n : Node} (mem : c ∈ n.children) (inside : Occurs m c) : Occurs m n

/-! ### The walk below a node -/

theorem descendantsList_eq (xs : List Node) : descendantsList xs = xs.flatMap preorder := by
  induction xs with
  | nil => simp [descendantsList]
  | cons x xs ih => simp [descendantsList, ih, preorder]

theorem descendantsOpt_eq (o : Option Node) : descendantsOpt o = o.toList.flatMap preorder := by
  cases o <;> simp [descendantsOpt, preorder]

theorem descendantsOptList_eq (o : Option (List Node)) :
    descendantsOptList o = (optList o).flatMap preorder := by
  cases o <;> simp [descendantsOptList, optList, descendantsList_eq]

/-- Below a node the walk visits the subtree of each child in turn. -/
theorem descendants_eq (n : Node) : n.descendants = n.children.flatMap preorder := by
  -- the equation lemmas of `children`, a match with a catch-all, are too costly to build: it is
  -- unfolded to its match, which reduces once the constructor is known
  cases n <;> unfold children <;> dsimp only <;>
    simp [descendants, descendantsList_eq, descendantsOpt_eq, descendantsOptList_eq, preorder]

theorem preorder_eq (n : Node) : n.preorder = n :: n.children.flatMap preorder := by
  rw [preorder, descendants_eq]

/-- A child is smaller than its parent: recursion through `children` terminates. -/
theorem sizeOf_lt_of_mem_children {c n : Node} (h : c ∈ n.children) : sizeOf c < sizeOf n := by
  have mem_lt : ∀ {xs : List Node}, c ∈ xs → sizeOf c < sizeOf xs := List.sizeOf_lt_of_mem
  cases n <;> unfold children at h <;> dsimp only at h <;> (try cases_type* Option) <;>
    (try simp only [optList, Option.toList_some, Option.toList_none, List.mem_append,
      List.mem_cons, List.not_mem_nil, or_false, false_or] at h) <;>
    simp <;> grind

/-! ### The walk is the occurrences -/

theorem mem_preorder_of_occurs {m n : Node} (h : Occurs m n) : m ∈ n.preorder := by
  induction h with
  | here => simp [preorder]
  | child mem _ ih =>
    rw [preorder_eq]
    exact List.mem_cons_of_mem _ (List.mem_flatMap.2 ⟨_, mem, ih⟩)

theorem occurs_of_mem_preorder {m : Node} : (n : Node) → m ∈ n.preorder → Occurs m n
  | n, h => by
    rw [preorder_eq] at h
    rcases List.mem_cons.1 h with rfl | h
    · exact .here m
    · obtain ⟨c, hc, hm⟩ := List.mem_flatMap.1 h
      exact .child hc (occurs_of_mem_preorder c hm)
termination_by n => sizeOf n
decreasing_by exact sizeOf_lt_of_mem_children hc

theorem mem_preorder_iff {m n : Node} : m ∈ n.preorder ↔ Occurs m n :=
  ⟨occurs_of_mem_preorder n, mem_preorder_of_occurs⟩

end Node

end ParamNarrow
