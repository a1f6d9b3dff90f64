import ParamNarrow.Narrowing.Reads
import ParamNarrow.Proofs.Occurrence
/-!
# Field reads and escapes, stated on the syntax

The collector and the detector look at one node at a time as the walk reaches it. This module says
on the syntax what they look for, and that, over the walk, they find it wherever it stands:

* `ReadsField p key m`: `m` is `p.key`, `p?.key`, or `p[k]` with a string, template or numeric
  literal `k` whose value is `key`, where `p` is the bare identifier;
* `Wraps p e`: `e` is the identifier `p` under any finite stack of parentheses, `!`, spreads,
  `as` and `satisfies`;
* `PassesOn p m`: `m` hands such an `e` to other code, as an argument of a call or `new`, as a
  substitution of a tagged template, or as the object of an access by a key that is no literal.

`usedFields` holds every key that a recognized read anywhere in the body reads
(`mem_usedFields_of_reads`), and `escapes` is true exactly when some node of the body passes the
parameter on (`escapes_iff`).
-/

namespace ParamNarrow

namespace Node

/-- `k` is a literal key of value `key`: a string, template or numeric literal. -/
def IsLiteralKey (k : Node) (key : String) : Prop :=
  ∃ s kind raw, k = literal s kind key raw ∧
    (kind = .stringLiteral ∨ kind = .noSubstitutionTemplateLiteral ∨ kind = .numericLiteral)

/-- `m` reads the field `key` of the bare identifier `p`. -/
inductive ReadsField (p key : String) : Node → Prop
  | property (s s' s'' : Span) (questionDot : Bool) :
      ReadsField p key (propertyAccess s (ident s' p) questionDot (ident s'' key))
  | element (s s' : Span) (questionDot : Bool) {index : Node} (literal : index.IsLiteralKey key) :
      ReadsField p key (elementAccess s (ident s' p) questionDot index)

/-- `e` is the identifier `p` under parentheses, `!`, spreads, `as` and `satisfies`. -/
inductive Wraps (p : String) : Node → Prop
  | ident (s : Span) : Wraps p (ident s p)
  | parenthesized (s : Span) {e : Node} : Wraps p e → Wraps p (parenthesized s e)
  | nonNull (s : Span) {e : Node} : Wraps p e → Wraps p (nonNull s e)
  | spread (s : Span) {e : Node} : Wraps p e → Wraps p (spreadElement s e)
  | asExpr (s : Span) {e : Node} (type : Node) : Wraps p e → Wraps p (asExpr s e type)
  | satisfiesExpr (s : Span) {e : Node} (type : Node) : Wraps p e → Wraps p (satisfiesExpr s e type)

/-- `m` hands `p`, under wrappers, to code that the analysis does not follow. -/
inductive PassesOn (p : String) : Node → Prop
  | callArgument (s : Span) (callee : Node) (questionDot : Bool) (typeArgs : Option (List Node))
      {args : List Node} {a : Node} (mem : a ∈ args) (wraps : Wraps p a) :
      PassesOn p (call s callee questionDot typeArgs args)
  | newArgument (s : Span) (callee : Node) (typeArgs : Option (List Node)) {args : List Node}
      {a : Node} (mem : a ∈ args) (wraps : Wraps p a) :
      PassesOn p (new s callee typeArgs (some args))
  | substitution (s : Span) (tag : Node) (typeArgs : Option (List Node)) (s' : Span) (head : Node)
      {spans : List Node} {s'' : Span} {e lit : Node} (mem : templateSpan s'' e lit ∈ spans)
      (wraps : Wraps p e) :
      PassesOn p (taggedTemplate s tag typeArgs (templateExpr s' head spans))
  | computedKey (s : Span) {object : Node} (questionDot : Bool) {index : Node}
      (wraps : Wraps p object) (computed : ∀ key, ¬ index.IsLiteralKey key) :
      PassesOn p (elementAccess s object questionDot index)

/-! ### Keys and wrappers -/

theorem literalKey?_eq_some_iff {k : Node} {key : String} :
    k.literalKey? = some key ↔ k.IsLiteralKey key := by
  cases k
  case literal s kind text raw =>
    simp only [literalKey?, IsLiteralKey, literal.injEq]
    constructor
    · intro h
      split at h
      · rename_i hkind
        cases h
        refine ⟨s, kind, raw, ⟨rfl, rfl, rfl, rfl⟩, ?_⟩
        simpa [Bool.or_eq_true, beq_iff_eq, or_assoc] using hkind
      · cases h
    · rintro ⟨_, _, _, ⟨rfl, rfl, rfl, rfl⟩, hkind⟩
      rcases hkind with rfl | rfl | rfl <;> rfl
  all_goals simp [literalKey?, IsLiteralKey]

theorem passedName?_eq_some_of_wraps {p : String} {e : Node} (h : e.Wraps p) :
    e.passedName? = some p := by
  induction h with
  | ident => rfl
  | parenthesized _ _ ih | nonNull _ _ ih | spread _ _ ih | asExpr _ _ _ ih
  | satisfiesExpr _ _ _ ih => simpa [passedName?] using ih

theorem passedName?_eq_some_iff {p : String} {e : Node} : e.passedName? = some p ↔ e.Wraps p := by
  refine ⟨fun h => ?_, passedName?_eq_some_of_wraps⟩
  induction e using passedName?.induct with
  | case1 s e ih => exact .parenthesized s (ih (by simpa [passedName?] using h))
  | case2 s e ih => exact .nonNull s (ih (by simpa [passedName?] using h))
  | case3 s e ih => exact .spread s (ih (by simpa [passedName?] using h))
  | case4 s e t ih => exact .asExpr s t (ih (by simpa [passedName?] using h))
  | case5 s e t ih => exact .satisfiesExpr s t (ih (by simpa [passedName?] using h))
  | case6 n h1 h2 h3 h4 h5 =>
    rw [passedName?.eq_6 n h1 h2 h3 h4 h5] at h
    cases n <;> simp [identText?] at h
    subst h
    exact .ident _

theorem ReadsField.mem_fieldReads {p key : String} {m : Node} (h : m.ReadsField p key) :
    key ∈ m.fieldReads p := by
  cases h with
  | property => simp [fieldReads, identText?]
  | element _ _ _ lit => simp [fieldReads, identText?, literalKey?_eq_some_iff.2 lit]

theorem PassesOn.mem_escapingNames {p : String} {m : Node} (h : m.PassesOn p) :
    p ∈ m.escapingNames := by
  cases h with
  | callArgument _ _ _ _ mem wraps =>
    exact List.mem_filterMap.2 ⟨_, mem, passedName?_eq_some_of_wraps wraps⟩
  | newArgument _ _ _ mem wraps =>
    exact List.mem_filterMap.2 ⟨_, mem, passedName?_eq_some_of_wraps wraps⟩
  | substitution _ _ _ _ _ mem wraps =>
    exact List.mem_filterMap.2 ⟨_, mem, passedName?_eq_some_of_wraps wraps⟩
  | computedKey _ _ wraps computed =>
    have hkey : _ = none := Option.eq_none_iff_forall_ne_some.2
      fun key hkey => computed key (literalKey?_eq_some_iff.1 hkey)
    simp [escapingNames, hkey, passedName?_eq_some_of_wraps wraps]

theorem passesOn_of_mem_escapingNames {p : String} {m : Node} (h : p ∈ m.escapingNames) :
    m.PassesOn p := by
  cases m
  case call s callee questionDot typeArgs args =>
    obtain ⟨a, ha, hp⟩ := List.mem_filterMap.1 (by simpa only [escapingNames] using h)
    exact .callArgument s callee questionDot typeArgs ha (passedName?_eq_some_iff.1 hp)
  case new s callee typeArgs args =>
    cases args with
    | none => simp [escapingNames, optList] at h
    | some args =>
      obtain ⟨a, ha, hp⟩ := List.mem_filterMap.1 (by simpa only [escapingNames, optList] using h)
      exact .newArgument s callee typeArgs ha (passedName?_eq_some_iff.1 hp)
  case taggedTemplate s tag typeArgs template =>
    cases template
    case templateExpr s' head spans =>
      obtain ⟨x, hx, hp⟩ := List.mem_filterMap.1 (by simpa only [escapingNames] using h)
      cases x
      case templateSpan s'' e lit =>
        exact .substitution s tag typeArgs s' head hx (passedName?_eq_some_iff.1 hp)
      all_goals simp at hp
    all_goals simp [escapingNames] at h
  case elementAccess s object questionDot index =>
    simp only [escapingNames] at h
    split at h
    · rename_i hkey
      refine .computedKey s questionDot (passedName?_eq_some_iff.1 (by simpa using h)) ?_
      intro key hlit
      simp [literalKey?_eq_some_iff.2 hlit] at hkey
    · simp at h
  all_goals simp [escapingNames] at h

theorem mem_escapingNames_iff {p : String} {m : Node} : p ∈ m.escapingNames ↔ m.PassesOn p :=
  ⟨passesOn_of_mem_escapingNames, PassesOn.mem_escapingNames⟩

end Node

/-! ### Over the walk -/

theorem mem_insertSorted {a s : String} {xs : List String} :
    a ∈ insertSorted s xs ↔ a = s ∨ a ∈ xs := by
  induction xs with
  | nil => simp [insertSorted]
  | cons x xs ih =>
    simp only [insertSorted]
    split
    · simp
    · split
      · rename_i heq
        obtain rfl := beq_iff_eq.1 heq
        simp
      · simp only [List.mem_cons, ih]
        exact or_left_comm

theorem mem_foldl_insertSorted {a : String} (xs : List String) {acc : List String} :
    a ∈ xs.foldl (fun acc s => insertSorted s acc) acc ↔ a ∈ acc ∨ a ∈ xs := by
  induction xs generalizing acc with
  | nil => simp
  | cons x xs ih =>
    rw [List.foldl_cons, ih, mem_insertSorted, List.mem_cons, @or_comm (a = x) (a ∈ acc), or_assoc]

@[simp] theorem mem_sortedDistinct {a : String} {xs : List String} :
    a ∈ sortedDistinct xs ↔ a ∈ xs := by
  simp [sortedDistinct, mem_foldl_insertSorted]

theorem mem_usedFields_iff {body : Node} {p key : String} :
    key ∈ usedFields (some body) p ↔ ∃ m : Node, m.Occurs body ∧ key ∈ m.fieldReads p := by
  simp [usedFields, Node.mem_preorder_iff]

/-- Every recognized read anywhere in the body, nested functions included, is collected. -/
theorem mem_usedFields_of_reads {body m : Node} {p key : String} (hm : m.Occurs body)
    (h : m.ReadsField p key) : key ∈ usedFields (some body) p :=
  mem_usedFields_iff.2 ⟨m, hm, h.mem_fieldReads⟩

/-- The parameter escapes exactly when some node of the body passes it on. -/
theorem escapes_iff {body : Node} {p : String} :
    escapes (some body) p = true ↔ ∃ m : Node, m.Occurs body ∧ m.PassesOn p := by
  simp [escapes, Node.mem_preorder_iff, Node.mem_escapingNames_iff]

end ParamNarrow
