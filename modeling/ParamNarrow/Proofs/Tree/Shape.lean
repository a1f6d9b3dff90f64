import ParamNarrow.Proofs.Occurrence
import ParamNarrow.Syntax.Parser.Expressions
import Mathlib.Data.List.Chain
/-!
# Well-formed syntax trees

What the parser promises of each node it builds, on its own (`Node.Local`):

* its span is not empty, except for the hole of an array, and its children lie inside it in the
  order `Node.children` lists them, each ending at or before the start of the next
  (`Node.Placed`);
* a binary node built by the operator loop binds no looser than the operator of its left
  operand and strictly tighter than that of its right operand, except that `**` groups to the
  right, and an operator token stands between its operands (`Node.OperandsOK`);
* a type written without parentheses nests by how tightly it binds (`Node.typeLevel`): a union's
  constituents are intersections or tighter, an intersection's are type operators or tighter, and
  the element of an array type and the object of an indexed access are plain types
  (`Node.NestingOK`).

`Node.Good` says that every node of a tree is locally well formed. It is what each rule of the
parser hands back, checked one constructor at a time (`good_iff`).
-/

namespace ParamNarrow

namespace Node

/-! ### Spans in order -/

/-- The nodes of a list lie in order from `lo` on and end by `hi`: the first starts at or after
`lo`, each starts at or after the end of the one before it, and each ends at or before `hi`. -/
def Placed : Nat → Nat → List Node → Prop
  | _, _, [] => True
  | lo, hi, c :: cs => lo ≤ c.pos ∧ c.stop ≤ hi ∧ Placed c.stop hi cs

@[simp] theorem placed_nil (lo hi : Nat) : Placed lo hi [] := trivial

@[simp] theorem placed_cons {lo hi : Nat} {c : Node} {cs : List Node} :
    Placed lo hi (c :: cs) ↔ lo ≤ c.pos ∧ c.stop ≤ hi ∧ Placed c.stop hi cs :=
  Iff.rfl

theorem Placed.mono {lo hi lo' hi' : Nat} {l : List Node} (h : Placed lo hi l) (hlo : lo' ≤ lo)
    (hhi : hi ≤ hi') : Placed lo' hi' l := by
  induction l generalizing lo lo' with
  | nil => trivial
  | cons c cs ih =>
    obtain ⟨h₁, h₂, h₃⟩ := h
    exact ⟨by omega, by omega, ih h₃ (Nat.le_refl _)⟩

theorem Placed.append {lo mid₁ mid₂ hi : Nat} {l₁ l₂ : List Node} (h₁ : Placed lo mid₁ l₁)
    (h₂ : Placed mid₂ hi l₂) (hmid : mid₁ ≤ mid₂) (hlo : lo ≤ mid₂) (hhi : mid₁ ≤ hi) :
    Placed lo hi (l₁ ++ l₂) := by
  induction l₁ generalizing lo with
  | nil => exact h₂.mono hlo (Nat.le_refl _)
  | cons c cs ih =>
    obtain ⟨hc₁, hc₂, hcs⟩ := h₁
    exact ⟨hc₁, by omega, ih hcs (by omega)⟩

theorem Placed.inside {lo hi : Nat} {l : List Node} (h : Placed lo hi l)
    (hle : ∀ c ∈ l, c.pos ≤ c.stop) : ∀ c ∈ l, lo ≤ c.pos ∧ c.stop ≤ hi := by
  induction l generalizing lo with
  | nil => simp
  | cons c cs ih =>
    obtain ⟨h₁, h₂, h₃⟩ := h
    intro d hd
    rcases List.mem_cons.1 hd with rfl | hd
    · exact ⟨h₁, h₂⟩
    · have hc := hle c List.mem_cons_self
      have := ih h₃ (fun e he => hle e (List.mem_cons_of_mem _ he)) d hd
      exact ⟨by omega, this.2⟩

/-! ### Operators -/

/-- The precedence of a binary operator as the operator loop reads it where `in` is an
operator; zero for every token that is none. -/
def operatorPrecedence (op : TokenKind) : Nat :=
  Parser.binaryPrecedence op false

/-- The operator of a node that the operator loop builds: a binary node whose operator has a
precedence. Assignments and the comma, also binary nodes, have none. -/
def operator? : Node → Option TokenKind
  | binary _ _ op _ => if operatorPrecedence op = 0 then none else some op
  | _ => none

/-- The operands of an operator node: the left binds no looser, the right strictly tighter
unless both are `**`, which groups to the right; and an operator token stands between them. -/
def OperandsOK : Node → Prop
  | binary _ l op r => operatorPrecedence op ≠ 0 →
      (∀ lop ∈ l.operator?, operatorPrecedence op ≤ operatorPrecedence lop) ∧
      (∀ rop ∈ r.operator?, operatorPrecedence op < operatorPrecedence rop ∨
        op = .asteriskAsteriskToken ∧ rop = .asteriskAsteriskToken) ∧
      l.stop < r.pos
  | _ => True

/-! ### Types -/

/-- How tightly a type binds as it is written: a function type loosest, then a union, an
intersection, a type operator, and every other type, parenthesized ones included. -/
def typeLevel : Node → Nat
  | functionType .. => 0
  | unionType .. => 1
  | intersectionType .. => 2
  | typeOperator .. => 3
  | _ => 4

/-- Types nest by how tightly they bind. -/
def NestingOK : Node → Prop
  | unionType _ ts => ∀ t ∈ ts, 2 ≤ t.typeLevel
  | intersectionType _ ts => ∀ t ∈ ts, 3 ≤ t.typeLevel
  | arrayType _ e => e.typeLevel = 4
  | indexedAccessType _ o _ => o.typeLevel = 4
  | _ => True

/-! ### Well-formed nodes -/

/-- The hole of an array literal or pattern, whose span is empty. -/
def IsOmitted : Node → Prop
  | omitted _ => True
  | _ => False

/-- What the parser promises of a node on its own. -/
structure Local (n : Node) : Prop where
  pos_le : n.pos ≤ n.stop
  nonempty : n.pos < n.stop ∨ n.IsOmitted
  children : Placed n.pos n.stop n.children
  operands : n.OperandsOK
  nesting : n.NestingOK

/-- Every node of the tree is locally well formed. -/
def Good (n : Node) : Prop :=
  ∀ m, Occurs m n → m.Local

/-- A tree is well formed when its root is and each subtree below it is. -/
theorem good_iff {n : Node} : n.Good ↔ n.Local ∧ ∀ c ∈ n.children, c.Good := by
  constructor
  · intro h
    exact ⟨h n (.here n), fun c hc m hm => h m (.child hc hm)⟩
  · rintro ⟨hn, hc⟩ m hm
    cases hm with
    | here => exact hn
    | child hmem hin => exact hc _ hmem m hin

theorem Good.local {n : Node} (h : n.Good) : n.Local :=
  (good_iff.1 h).1

theorem Good.child {c n : Node} (h : n.Good) (hc : c ∈ n.children) : c.Good :=
  (good_iff.1 h).2 c hc

/-- Every node below a well-formed node lies inside its span. -/
theorem Good.occurs_inside {m n : Node} (h : n.Good) (hm : Occurs m n) :
    n.pos ≤ m.pos ∧ m.stop ≤ n.stop := by
  induction hm with
  | here => exact ⟨Nat.le_refl _, Nat.le_refl _⟩
  | @child c n hmem _ ih =>
    have hin := h.local.children.inside (fun d hd => (h.child hd).local.pos_le) c hmem
    have hc := ih (h.child hmem)
    exact ⟨by omega, by omega⟩

/-! ### Nodes read between two offsets -/

/-- A node read between `lo` and `hi`: well formed, not empty, starting at or after `lo` and
ending by `hi`. -/
structure Read (lo : Nat) (n : Node) (hi : Nat) : Prop where
  good : n.Good
  lo_le : lo ≤ n.pos
  nonempty : n.pos < n.stop
  stop_le : n.stop ≤ hi

/-- Nodes read between `lo` and `hi`: each well formed, and in order inside `[lo, hi]`. -/
def ReadAll (lo : Nat) (l : List Node) (hi : Nat) : Prop :=
  (∀ c ∈ l, c.Good) ∧ Placed lo hi l

section Reading

variable {lo hi lo' hi' : Nat} {n : Node} {l : List Node}

theorem Read.lt (h : Read lo n hi) : lo < hi := by
  have := h.lo_le
  have := h.nonempty
  have := h.stop_le
  omega

theorem Read.mono (h : Read lo n hi) (hlo : lo' ≤ lo) (hhi : hi ≤ hi') : Read lo' n hi' :=
  ⟨h.good, Nat.le_trans hlo h.lo_le, h.nonempty, Nat.le_trans h.stop_le hhi⟩

theorem Read.of_pos (h : Read lo n hi) (hlo : lo' ≤ n.pos) : Read lo' n hi :=
  ⟨h.good, hlo, h.nonempty, h.stop_le⟩

theorem Read.all (h : Read lo n hi) : ReadAll lo [n] hi := by
  refine ⟨fun c hc => ?_, placed_cons.2 ⟨h.lo_le, h.stop_le, trivial⟩⟩
  rw [List.mem_singleton] at hc
  exact hc ▸ h.good

@[simp] theorem readAll_nil : ReadAll lo [] hi :=
  ⟨fun _ h => (nomatch h), trivial⟩

theorem ReadAll.mono (h : ReadAll lo l hi) (hlo : lo' ≤ lo) (hhi : hi ≤ hi') : ReadAll lo' l hi' :=
  ⟨h.1, h.2.mono hlo hhi⟩

theorem ReadAll.append {mid₁ mid₂ : Nat} {l₁ l₂ : List Node} (h₁ : ReadAll lo l₁ mid₁)
    (h₂ : ReadAll mid₂ l₂ hi) (hmid : mid₁ ≤ mid₂) (hlo : lo ≤ mid₂) (hhi : mid₁ ≤ hi) :
    ReadAll lo (l₁ ++ l₂) hi := by
  refine ⟨fun c hc => ?_, h₁.2.append h₂.2 hmid hlo hhi⟩
  rcases List.mem_append.1 hc with hc | hc
  · exact h₁.1 c hc
  · exact h₂.1 c hc

theorem ReadAll.option {o : Option Node} (h : ∀ x ∈ o, Read lo x hi) : ReadAll lo o.toList hi := by
  cases o with
  | none => exact readAll_nil
  | some x => exact (h x rfl).all

theorem ReadAll.optList {o : Option (List Node)} (h : ∀ xs ∈ o, ReadAll lo xs hi) :
    ReadAll lo (optList o) hi := by
  cases o with
  | none => exact readAll_nil
  | some xs => exact h xs rfl

theorem Read.leaf (hch : n.children = []) (hop : n.OperandsOK) (hnest : n.NestingOK)
    (hlo : lo ≤ n.pos) (hlt : n.pos < n.stop) (hhi : n.stop ≤ hi) : Read lo n hi := by
  have hplaced : Placed n.pos n.stop n.children := by
    rw [hch]
    trivial
  have hkids : ∀ c ∈ n.children, c.Good := by
    rw [hch]
    exact fun _ h => nomatch h
  have hlocal : n.Local := ⟨hlt.le, .inl hlt, hplaced, hop, hnest⟩
  exact ⟨good_iff.2 ⟨hlocal, hkids⟩, hlo, hlt, hhi⟩

theorem readAll_omitted {pos : Nat} (hlo : lo ≤ pos) (hhi : pos ≤ hi) :
    ReadAll lo [omitted ⟨pos, pos⟩] hi := by
  refine ⟨fun c hc => ?_, placed_cons.2 ⟨hlo, hhi, trivial⟩⟩
  rw [List.mem_singleton] at hc
  subst hc
  exact good_iff.2 ⟨⟨Nat.le_refl _, .inr trivial, trivial, trivial, trivial⟩, fun _ h => nomatch h⟩

/-- A node whose span runs from `lo` to `hi`, with its children read between them. -/
theorem Read.node (hpos : n.pos = lo) (hstop : n.stop = hi) (hlt : lo < hi)
    (hkids : ReadAll lo n.children hi) (hop : n.OperandsOK) (hnest : n.NestingOK) :
    Read lo n hi := by
  have hplaced : Placed n.pos n.stop n.children := by
    rw [hpos, hstop]
    exact hkids.2
  have hne : n.pos < n.stop := by
    rw [hpos, hstop]
    exact hlt
  have hlocal : n.Local := ⟨hne.le, .inl hne, hplaced, hop, hnest⟩
  exact ⟨good_iff.2 ⟨hlocal, hkids.1⟩, hpos.ge, hne, hstop.le⟩

end Reading

end Node

end ParamNarrow
