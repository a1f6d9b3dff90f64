import Mathlib
import ParamNarrow.Syntax.Walk
/-!
# Walking a tree with a visitor

`TreeAccess.walkDescendants` is the walk with a visitor, over any store of nodes whose children
below a node form a finite tree. It keeps an explicit stack instead of recursing, so that deep
trees cannot exhaust the call stack: it pops a node, calls the visitor, and unless the visitor
asks to skip the node's children, pushes them in reverse so that the first child comes off next.
The visitor carries a state of its own from call to call.

Syntax trees are such a store through `Node.children` (`Node.access`): the children of a node are
fields of its constructor, so together they are smaller than the node.
-/

namespace ParamNarrow

namespace Node

/-! ### Children are smaller than their parent -/

theorem sum_sizeOf_lt (xs : List Node) : (xs.map sizeOf).sum < sizeOf xs := by
  induction xs with
  | nil => simp
  | cons x xs ih => simp only [List.map_cons, List.sum_cons, List.cons.sizeOf_spec]; omega

theorem sum_sizeOf_toList_lt (o : Option Node) : (o.toList.map sizeOf).sum < sizeOf o := by
  cases o <;> simp

theorem sum_sizeOf_optList_lt (o : Option (List Node)) :
    ((optList o).map sizeOf).sum < sizeOf o := by
  cases o with
  | none => simp [optList]
  | some xs =>
    have := sum_sizeOf_lt xs
    simp only [optList, Option.some.sizeOf_spec]
    omega

/-- The children of a node are together smaller than the node. -/
theorem sum_sizeOf_children_lt (n : Node) : (n.children.map sizeOf).sum < sizeOf n := by
  cases n <;> unfold children <;> dsimp only <;>
    simp <;> grind [sum_sizeOf_lt, sum_sizeOf_toList_lt, sum_sizeOf_optList_lt]

end Node

/-! ### The walk with a visitor -/

/-- What a visitor asks for after seeing a node. -/
inductive VisitControl where
  | continue
  /-- Do not descend into the node's children. -/
  | skipChildren
deriving Repr, DecidableEq, Inhabited

/-- A store of nodes seen through the children of each node, in order. The nodes below any node
form a finite tree: some size of the nodes exceeds the sizes of a node's children taken
together. -/
structure TreeAccess (α : Type) where
  children : α → List α
  finite : ∃ size : α → Nat, ∀ a, ((children a).map size).sum < size a

namespace TreeAccess

variable {α σ : Type} (T : TreeAccess α) (visit : σ → α → σ × VisitControl)

/-- A size of the nodes that their children stay below. -/
noncomputable def size : α → Nat :=
  Classical.choose T.finite

theorem sum_size_children_lt (a : α) : ((T.children a).map T.size).sum < T.size a :=
  Classical.choose_spec T.finite a

/-- The walk from an explicit stack whose top is its last element: pop a node and visit it, and
unless the visitor skips its children, push them in reverse order, the first child last. -/
def walkStack (s : σ) (stack : Array α) : σ :=
  match _hback : stack.back? with
  | none => s
  | some a =>
    match visit s a with
    | (s', .skipChildren) => walkStack s' stack.pop
    | (s', .continue) => walkStack s' (stack.pop ++ (T.children a).reverse.toArray)
termination_by (stack.toList.map T.size).sum
decreasing_by
  all_goals
    obtain ⟨rest, rfl⟩ := Array.back?_eq_some_iff.1 _hback
    have := T.sum_size_children_lt a
    simp only [Array.pop_push, Array.toList_push, Array.toList_append, List.map_append,
      List.map_reverse, List.sum_append, List.sum_reverse, List.map_cons, List.map_nil,
      List.sum_cons, List.sum_nil]
    omega

/-- Visit `root` and the nodes below it in pre-order, threading the visitor's state through the
calls; without a root nothing is visited. -/
def walkDescendants (s : σ) (root : Option α) : σ :=
  T.walkStack visit s (match root with
    | some r => #[r]
    | none => #[])

end TreeAccess

/-- Syntax trees, seen through `Node.children`. -/
def Node.access : TreeAccess Node :=
  ⟨Node.children, sizeOf, Node.sum_sizeOf_children_lt⟩

@[simp] theorem Node.access_children (n : Node) : Node.access.children n = n.children := rfl

end ParamNarrow
