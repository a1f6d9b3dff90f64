import ParamNarrow.Syntax.Visit
import ParamNarrow.Narrowing.Reads
import ParamNarrow.Proofs.Occurrence
/-!
# The walk with a visitor is the recursive pre-order traversal

`TreeAccess.walkDescendants` walks below a node with an explicit stack. `visitPreorder` is the
recursive traversal it stands for: visit a node, then, unless the visitor skips its children, the
subtree of each child in the order of `children`. The two agree for every visitor, whatever state
it carries (`walkDescendants_eq_visitPreorder`), so the walk calls the visitor on the same nodes,
in the same order, once each.

The proof reads the stack as the list of subtrees still to walk, the next one on top
(`walkStack_append_reverse`): a round pops a subtree and either drops the nodes below its root or
puts the subtrees of the root's children back on top, the first child on top.

Over syntax trees, a visitor that never skips and collects what it finds at each node finds what
`Node.preorder` finds, so the reads and escapes of a parameter, which go through `preorder`, are
what the walk collects (`usedFields_eq_walk`, `escapes_eq_walk`).
-/

namespace ParamNarrow

namespace TreeAccess

variable {α σ : Type} (T : TreeAccess α) (visit : σ → α → σ × VisitControl)

theorem size_lt_of_mem_children {a c : α} (h : c ∈ T.children a) : T.size c < T.size a :=
  Nat.lt_of_le_of_lt (List.le_sum_of_mem (List.mem_map_of_mem h)) (T.sum_size_children_lt a)

/-- The recursive pre-order traversal: visit a node and, unless the visitor skips its children,
the subtree of each child in turn. -/
def visitPreorder (s : σ) (a : α) : σ :=
  match visit s a with
  | (s', .skipChildren) => s'
  | (s', .continue) => (T.children a).attach.foldl (fun s c => visitPreorder s c.1) s'
termination_by T.size a
decreasing_by exact T.size_lt_of_mem_children c.2

section Steps

variable {T visit} {s s' : σ} {a : α}

theorem visitPreorder_skip (h : visit s a = (s', .skipChildren)) :
    T.visitPreorder visit s a = s' := by
  rw [visitPreorder, h]

theorem visitPreorder_continue (h : visit s a = (s', .continue)) :
    T.visitPreorder visit s a = (T.children a).foldl (T.visitPreorder visit) s' := by
  rw [visitPreorder, h]
  exact List.foldl_attach

end Steps

@[simp] theorem walkStack_empty (s : σ) : T.walkStack visit s #[] = s := by
  rw [walkStack]
  rfl

/-- The stack holds the subtrees still to walk, the next one on top: with the subtrees of `xs`
pushed above `stack`, the first on top, the walk goes through each of them in turn and then on
below. -/
theorem walkStack_append_reverse (s : σ) (stack : Array α) (xs : List α) :
    T.walkStack visit s (stack ++ xs.reverse.toArray) =
      T.walkStack visit (xs.foldl (T.visitPreorder visit) s) stack := by
  -- induction on the sizes of the pending subtrees together, which every round lowers
  induction hsize : (xs.map T.size).sum using Nat.strong_induction_on generalizing s xs with
  | _ n ih =>
  cases xs with
  | nil => simp
  | cons a ys =>
    have hback : (stack ++ (a :: ys).reverse.toArray).back? = some a := by simp
    have hpop : (stack ++ (a :: ys).reverse.toArray).pop = stack ++ ys.reverse.toArray := by simp
    have hchildren := T.sum_size_children_lt a
    simp only [List.map_cons, List.sum_cons] at hsize
    rw [walkStack]
    split
    next h => rw [hback] at h; cases h
    next b h =>
      rw [hback] at h
      cases h
      rw [hpop, List.foldl_cons]
      rcases hv : visit s a with ⟨s', _ | _⟩
      · have hstack : stack ++ ys.reverse.toArray ++ (T.children a).reverse.toArray =
            stack ++ (T.children a ++ ys).reverse.toArray := by simp
        dsimp only
        rw [hstack, ih _ (by simp only [List.map_append, List.sum_append]; omega) s' _ rfl,
          List.foldl_append, visitPreorder_continue hv]
      · dsimp only
        rw [ih _ (by omega) s' _ rfl, visitPreorder_skip hv]

theorem walkStack_singleton (s : σ) (a : α) :
    T.walkStack visit s #[a] = T.visitPreorder visit s a := by
  have h := T.walkStack_append_reverse visit s #[] [a]
  simp only [List.reverse_singleton, List.foldl_cons, List.foldl_nil, walkStack_empty] at h
  exact h

/-- The walk with an explicit stack is the recursive pre-order traversal: it calls the visitor on
the root, then on the subtree of each child in the order of `children`, except below a node for
which the visitor asked to skip the children, and on no other node. -/
theorem walkDescendants_eq_visitPreorder (s : σ) (root : α) :
    T.walkDescendants visit s (some root) = T.visitPreorder visit s root := by
  change T.walkStack visit s #[root] = _
  exact T.walkStack_singleton visit s root

end TreeAccess

namespace Node

variable {β : Type}

/-- A visitor that never skips and appends what `f` finds at each node. -/
def collecting (f : Node → List β) (acc : List β) (n : Node) : List β × VisitControl :=
  (acc ++ f n, .continue)

theorem visitPreorder_collecting (f : Node → List β) :
    ∀ (n : Node) (acc : List β),
      Node.access.visitPreorder (collecting f) acc n = acc ++ n.preorder.flatMap f
  | n, acc => by
    have hstep : collecting f acc n = (acc ++ f n, .continue) := rfl
    rw [TreeAccess.visitPreorder_continue hstep, preorder_eq]
    have hchildren : ∀ cs : List Node, (∀ c ∈ cs, c ∈ n.children) → ∀ acc' : List β,
        cs.foldl (Node.access.visitPreorder (collecting f)) acc' =
          acc' ++ cs.flatMap (fun c => c.preorder.flatMap f) := by
      intro cs
      induction cs with
      | nil => simp
      | cons c cs ih =>
        intro hmem acc'
        have hc : c ∈ n.children := hmem c (List.mem_cons_self ..)
        rw [List.foldl_cons, visitPreorder_collecting f c acc',
          ih (fun d hd => hmem d (List.mem_cons_of_mem _ hd))]
        simp
    rw [access_children, hchildren n.children (fun _ h => h)]
    simp [List.flatMap_assoc]
termination_by n => sizeOf n
decreasing_by exact sizeOf_lt_of_mem_children hc

theorem walkDescendants_collecting (f : Node → List β) (acc : List β) (root : Option Node) :
    Node.access.walkDescendants (collecting f) acc root =
      acc ++ ((root.map preorder).getD []).flatMap f := by
  cases root with
  | none => simp [TreeAccess.walkDescendants]
  | some n =>
    change Node.access.walkStack (collecting f) acc #[n] = _
    rw [TreeAccess.walkStack_singleton, visitPreorder_collecting]
    rfl

end Node

/-- The fields read from a parameter are those a walk over the body collects. -/
theorem usedFields_eq_walk (body : Option Node) (p : String) :
    usedFields body p =
      sortedDistinct (Node.access.walkDescendants (Node.collecting (Node.fieldReads p)) [] body) := by
  rw [Node.walkDescendants_collecting, List.nil_append, usedFields]

/-- A parameter escapes when a walk over the body collects its name. -/
theorem escapes_eq_walk (body : Option Node) (p : String) :
    escapes body p =
      (Node.access.walkDescendants (Node.collecting Node.escapingNames) [] body).contains p := by
  rw [Node.walkDescendants_collecting, List.nil_append, escapes]

end ParamNarrow
