import Mathlib.Logic.Relation
import ParamNarrow.Proofs.FieldNames
/-!
# Resolution terminates and fails at cycles

Resolving a type walks through it: into a parenthesized type, into each part of an intersection,
and from a reference into the declaration of its name, whose alias type or interface bases are
resolved with that name being expanded. `Resolver.Step` is one level of that walk and
`Resolver.Reaches` the whole of it; `Resolver.Expands` is the check a reference passes before its
declaration is expanded, and `followReference_of_expands` and `expands_of_followReference_eq_some`
show that it is exactly the check `followReference` makes.

A reference is expanded only under a name not being expanded yet, with fewer than
`maxResolutionDepth` names being expanded. So along the walk the names being expanded never repeat
and never exceed the limit (`reaches_stack`), every step either goes into a smaller type or expands
one more name (`step_wellFounded`: the walk has no infinite path), and the fuel of `resolveAt` is
never what stops it (`resolveAt_eq_resolveFrom`). A reference the walk reaches under a name being
expanded fails, and a failure anywhere on the walk fails the whole resolution
(`Reaches.resolveFrom_eq_none`).
-/

namespace ParamNarrow

/-- The bases an interface declaration extends. -/
def Node.heritageTypes : Node → List Node
  | .interfaceDeclaration _ _ _ _ heritage _ => Node.optList heritage
  | _ => []

namespace Resolver

variable (r : Resolver)

/-- Resolving `ref` with the names `active` being expanded expands the declaration `d` of the name
`n`: `ref` names `n` with no type arguments, `n` is no type parameter of the function, the file
declares it as `d`, it is not being expanded, and fewer names than the limit are. -/
structure Expands (active : List String) (ref : Node) (n : String) (d : TypeDeclaration) :
    Prop where
  reference : ∃ s name, ref = .typeReference s name none ∧ name.identText? = some n
  notTypeParameter : r.typeParams.contains n = false
  declared : r.table.typeDeclaration? n = some d
  fresh : n ∉ active
  belowLimit : active.length < maxResolutionDepth

/-- One level of the resolution walk, from a type with the names being expanded to a type it
resolves. -/
inductive Step : List String × Node → List String × Node → Prop
  | parenthesized (active : List String) (s : Span) (t : Node) :
      Step (active, .parenthesizedType s t) (active, t)
  | part (active : List String) (s : Span) {ts : List Node} {t : Node} (ht : t ∈ ts) :
      Step (active, .intersectionType s ts) (active, t)
  | expandAlias {active : List String} {ref : Node} {n : String} {s : Span} {mods : Modifiers}
      {name type : Node} (h : r.Expands active ref n (.alias (.typeAlias s mods name none type))) :
      Step (active, ref) (active ++ [n], type)
  | expandBase {active : List String} {ref : Node} {n : String} {ds : List Node} {d base : Node}
      (h : r.Expands active ref n (.interface ds)) (hd : d ∈ ds) (hbase : base ∈ d.heritageTypes) :
      Step (active, ref) (active ++ [n], base)

/-- The types a resolution comes to, each with the names then being expanded. -/
def Reaches : List String × Node → List String × Node → Prop :=
  Relation.ReflTransGen r.Step

/-- Resolution with the names `active` being expanded, given the fuel the depth limit leaves. -/
def resolveFrom (active : List String) (node : Node) : Option (List Field) :=
  r.resolveAt (maxResolutionDepth + 1 - active.length) active node

variable {r}

/-! ### The check before a reference is expanded -/

theorem followReference_of_expands {active : List String} {ref : Node} {n : String}
    {d : TypeDeclaration} (h : r.Expands active ref n d)
    (next : List String → Node → Option (List Field)) :
    r.followReference active next ref = declarationShape (next (active ++ [n])) d := by
  obtain ⟨s, name, rfl, hn⟩ := h.reference
  have hparam : n ∉ r.typeParams := by simpa using h.notTypeParameter
  have hdepth : ¬ maxResolutionDepth ≤ active.length := by
    have := h.belowLimit
    omega
  simp [followReference, hn, hparam, h.declared, h.fresh, hdepth]

theorem expands_of_followReference_eq_some {active : List String}
    {next : List String → Node → Option (List Field)} {ref : Node} {fs : List Field}
    (h : r.followReference active next ref = some fs) :
    ∃ n d, r.Expands active ref n d ∧ declarationShape (next (active ++ [n])) d = some fs := by
  unfold followReference at h
  split at h
  case h_2 => cases h
  case h_1 s name args =>
    split at h
    · cases h
    rename_i hargs
    split at h
    · cases h
    rename_i n hn
    split at h
    · cases h
    rename_i hparam
    split at h
    · cases h
    rename_i d hd
    split at h
    · cases h
    rename_i hguard
    simp only [Bool.or_eq_true, not_or, List.contains_iff_mem, decide_eq_true_eq] at hguard
    refine ⟨n, d, ⟨⟨s, name, by simpa using hargs, hn⟩, by simpa using hparam, hd, hguard.1,
      by omega⟩, h⟩

theorem followReference_eq_none {active : List String} {ref : Node}
    (h : ¬ ∃ n d, r.Expands active ref n d) (next : List String → Node → Option (List Field)) :
    r.followReference active next ref = none := by
  cases hsome : r.followReference active next ref with
  | none => rfl
  | some fs =>
    obtain ⟨n, d, hexp, -⟩ := expands_of_followReference_eq_some hsome
    exact absurd ⟨n, d, hexp⟩ h

theorem followReference_eq_none_of_mem {active : List String} {s : Span} {name : Node}
    {args : Option (List Node)} {n : String} (hn : name.identText? = some n) (hmem : n ∈ active)
    (next : List String → Node → Option (List Field)) :
    r.followReference active next (.typeReference s name args) = none := by
  refine followReference_eq_none ?_ next
  rintro ⟨n', d, hexp⟩
  obtain ⟨s', name', href, hn'⟩ := hexp.reference
  cases href
  obtain rfl : n = n' := Option.some.inj (hn.symm.trans hn')
  exact hexp.fresh hmem

theorem followReference_congr {active : List String}
    {next next' : List String → Node → Option (List Field)}
    (h : ∀ n, n ∉ active → active.length < maxResolutionDepth →
      next (active ++ [n]) = next' (active ++ [n])) :
    r.followReference active next = r.followReference active next' := by
  funext ref
  by_cases hexp : ∃ n d, r.Expands active ref n d
  · obtain ⟨n, d, hexp⟩ := hexp
    rw [followReference_of_expands hexp, followReference_of_expands hexp,
      h n hexp.fresh hexp.belowLimit]
  · rw [followReference_eq_none hexp, followReference_eq_none hexp]

/-! ### The names being expanded -/

theorem Step.stack {x y : List String × Node} (h : r.Step x y) :
    y.1 = x.1 ∨ ∃ n, n ∉ x.1 ∧ x.1.length < maxResolutionDepth ∧ y.1 = x.1 ++ [n] := by
  cases h with
  | parenthesized => exact .inl rfl
  | part => exact .inl rfl
  | expandAlias h => exact .inr ⟨_, h.fresh, h.belowLimit, rfl⟩
  | expandBase h => exact .inr ⟨_, h.fresh, h.belowLimit, rfl⟩

/-- Along the walk the names being expanded never repeat and never exceed the limit. -/
theorem reaches_stack {x y : List String × Node} (h : r.Reaches x y)
    (hx : x.1.length ≤ maxResolutionDepth ∧ x.1.Nodup) :
    y.1.length ≤ maxResolutionDepth ∧ y.1.Nodup := by
  induction h with
  | refl => exact hx
  | tail _ hstep ih =>
    rcases hstep.stack with heq | ⟨n, hn, hlen, heq⟩
    · exact heq ▸ ih
    · rw [heq]
      refine ⟨by simp only [List.length_append, List.length_singleton]; omega, List.nodup_append.2 ⟨ih.2, by simp, ?_⟩⟩
      intro a ha b hb hab
      rw [List.mem_singleton] at hb
      exact hn (hb ▸ hab ▸ ha)

/-- The walk has no infinite path: each step goes into a smaller type under the same names, or
expands one more name below the limit. -/
theorem step_wellFounded : WellFounded (flip r.Step) := by
  have hwf : WellFounded (InvImage (Prod.Lex (· < ·) (· < ·))
      fun x : List String × Node => (maxResolutionDepth - x.1.length, sizeOf x.2)) :=
    InvImage.wf _ (Prod.lex Nat.lt_wfRel Nat.lt_wfRel).wf
  refine Subrelation.wf (fun {x y} hxy => ?_) hwf
  cases hxy with
  | parenthesized => exact Prod.Lex.right _ (by simp only [Node.parenthesizedType.sizeOf_spec]; omega)
  | part _ _ ht =>
    have := List.sizeOf_lt_of_mem ht
    exact Prod.Lex.right _ (by simp only [Node.intersectionType.sizeOf_spec]; omega)
  | expandAlias h =>
    have := h.belowLimit
    exact Prod.Lex.left _ _ (by simp only [List.length_append, List.length_singleton]; omega)
  | expandBase h =>
    have := h.belowLimit
    exact Prod.Lex.left _ _ (by simp only [List.length_append, List.length_singleton]; omega)

/-! ### The fuel is never the limit -/

theorem resolveFrom_eq {active : List String} (h : active.length ≤ maxResolutionDepth)
    (node : Node) :
    r.resolveFrom active node = shapeWith (r.followReference active r.resolveFrom) node := by
  have hfuel :
      maxResolutionDepth + 1 - active.length = (maxResolutionDepth - active.length) + 1 := by
    omega
  rw [resolveFrom, hfuel, resolveAt]
  congr 1
  refine followReference_congr fun n _ _ => ?_
  funext t
  have hnext :
      maxResolutionDepth + 1 - (active ++ [n]).length = maxResolutionDepth - active.length := by
    rw [List.length_append, List.length_singleton]
    omega
  rw [resolveFrom, hnext]

/-- Any fuel above the depth left gives the same resolution: by induction on the fuel, the check
before each reference stops the walk at the limit before the fuel runs out. -/
theorem resolveAt_eq_resolveFrom (fuel : Nat) :
    ∀ (active : List String) (node : Node), active.length ≤ maxResolutionDepth →
      maxResolutionDepth < fuel + active.length →
      r.resolveAt fuel active node = r.resolveFrom active node := by
  induction fuel with
  | zero =>
    intro active _ hlen hfuel
    omega
  | succ fuel ih =>
    intro active node hlen hfuel
    rw [resolveAt, resolveFrom_eq hlen]
    congr 1
    refine followReference_congr fun n _ hlt => ?_
    funext t
    exact ih (active ++ [n]) t (by simp only [List.length_append, List.length_singleton]; omega)
      (by simp only [List.length_append, List.length_singleton]; omega)

/-! ### Failure spreads back along the walk -/

theorem intersectionShape_eq_none {follow : Node → Option (List Field)} {t : Node}
    (h : shapeWith follow t = none) :
    ∀ {ts : List Node}, t ∈ ts → ∀ acc, intersectionShape follow acc ts = none
  | x :: xs, ht, acc => by
    rcases List.mem_cons.1 ht with rfl | ht
    · simp [intersectionShape, h]
    · cases hx : shapeWith follow x with
      | none => simp [intersectionShape, hx]
      | some fs =>
        simp only [intersectionShape, hx]
        exact intersectionShape_eq_none h ht _

theorem foldlM_eq_none_of_mem {α β : Type} {step : α → β → Option α} {x : β}
    (hx : ∀ a, step a x = none) : ∀ {xs : List β}, x ∈ xs → ∀ a, xs.foldlM step a = none
  | y :: ys, hmem, a => by
    rcases List.mem_cons.1 hmem with rfl | hmem
    · simp [hx]
    · rw [List.foldlM_cons]
      cases step a y with
      | none => rfl
      | some a' => exact foldlM_eq_none_of_mem hx hmem a'

theorem foldlM_heritage {step : List Field × List Node → Node → Option (List Field × List Node)}
    (hstep : ∀ acc d a', step acc d = some a' → a'.2 = acc.2 ++ d.heritageTypes) :
    ∀ (ds : List Node) {acc out : List Field × List Node}, ds.foldlM step acc = some out →
      acc.2 ⊆ out.2 ∧ ∀ d ∈ ds, d.heritageTypes ⊆ out.2
  | [], _, _, h => by
    cases h
    exact ⟨List.Subset.refl _, by simp⟩
  | d :: ds, acc, out, h => by
    rw [List.foldlM_cons] at h
    obtain ⟨a', h1, h2⟩ := Option.bind_eq_some_iff.1 h
    obtain ⟨hsub, hall⟩ := foldlM_heritage hstep ds h2
    have ha' := hstep acc d a' h1
    refine ⟨fun x hx => hsub (by simp [ha', hx]), ?_⟩
    intro e he
    rcases List.mem_cons.1 he with rfl | he
    · exact fun x hx => hsub (by simp [ha', hx])
    · exact hall e he

theorem interfaceShape_eq_none {resolve : Node → Option (List Field)} {ds : List Node}
    {d base : Node} (hd : d ∈ ds) (hbase : base ∈ d.heritageTypes) (h : resolve base = none) :
    interfaceShape resolve ds = none := by
  unfold interfaceShape
  dsimp only
  rw [Option.bind_eq_none_iff]
  rintro ⟨fields, bases⟩ hown
  have hmem : base ∈ bases := by
    refine (foldlM_heritage ?_ ds hown).2 d hd hbase
    rintro ⟨fs, bs⟩ e a' hstep
    cases e
    case interfaceDeclaration _ _ _ typeParams heritage members =>
      dsimp only at hstep
      split at hstep
      · cases hstep
      · obtain ⟨more, _, rfl⟩ := Option.map_eq_some_iff.1 hstep
        rfl
    all_goals cases hstep
  exact foldlM_eq_none_of_mem (fun acc => by simp [h]) hmem fields

/-- A failure one level down fails the level above. -/
theorem Step.resolveFrom_eq_none {x y : List String × Node} (hstep : r.Step x y)
    (hx : x.1.length ≤ maxResolutionDepth) (hy : r.resolveFrom y.1 y.2 = none) :
    r.resolveFrom x.1 x.2 = none := by
  cases hstep with
  | parenthesized active s t =>
    rw [resolveFrom_eq hx, shapeWith, ← resolveFrom_eq hx]
    exact hy
  | part active s ht =>
    rw [resolveFrom_eq hx, shapeWith]
    exact intersectionShape_eq_none (by rw [← resolveFrom_eq hx]; exact hy) ht []
  | expandAlias h =>
    obtain ⟨s, name, rfl, -⟩ := h.reference
    rw [resolveFrom_eq hx, shapeWith, followReference_of_expands h]
    simpa [declarationShape] using hy
  | expandBase h hd hbase =>
    obtain ⟨s, name, rfl, -⟩ := h.reference
    rw [resolveFrom_eq hx, shapeWith, followReference_of_expands h, declarationShape]
    exact interfaceShape_eq_none hd hbase hy

/-- A failure anywhere on the walk fails the whole resolution. -/
theorem Reaches.resolveFrom_eq_none {x y : List String × Node} (h : r.Reaches x y)
    (hx : x.1.length ≤ maxResolutionDepth) (hy : r.resolveFrom y.1 y.2 = none) :
    r.resolveFrom x.1 x.2 = none := by
  induction h using Relation.ReflTransGen.head_induction_on with
  | refl => exact hy
  | @head a c hstep _ ih =>
    have hnext : c.1.length ≤ maxResolutionDepth := by
      rcases hstep.stack with heq | ⟨n, -, hlen, heq⟩
      · exact heq ▸ hx
      · rw [heq, List.length_append, List.length_singleton]
        omega
    exact hstep.resolveFrom_eq_none hx (ih hnext)

/-! ### Resolution -/

theorem resolveAt_eq_resolve {fuel : Nat} (hfuel : maxResolutionDepth < fuel) (node : Node) :
    r.resolveAt fuel [] node = r.resolve node :=
  resolveAt_eq_resolveFrom fuel [] node (by simp) (by simpa using hfuel)

theorem resolve_eq_none_of_reaches_active {node : Node} {active : List String} {s : Span}
    {name : Node} {args : Option (List Node)} {n : String}
    (h : r.Reaches ([], node) (active, .typeReference s name args))
    (hn : name.identText? = some n) (hmem : n ∈ active) : r.resolve node = none := by
  have hlen : active.length ≤ maxResolutionDepth := (reaches_stack h (by simp)).1
  have hcycle : r.resolveFrom active (.typeReference s name args) = none := by
    rw [resolveFrom_eq hlen, shapeWith]
    exact followReference_eq_none_of_mem hn hmem _
  exact Reaches.resolveFrom_eq_none h (by simp) hcycle

/-- Resolution terminates and fails at cycles. The walk from a type has no infinite path, and any
fuel beyond the depth limit gives the same result, so the fuel never stops it. A reference the walk
reaches under a name being expanded (an alias chain back to itself, interfaces extending each
other, an intersection with its own alias as a part) fails the whole resolution; the members of an
object type are listed without resolving their types, so a reference inside them is never reached.
Along the walk the names being expanded never repeat and are never more than
`maxResolutionDepth`. -/
theorem resolve_terminates_and_rejects_cycles (r : Resolver) (node : Node) :
    Acc (flip r.Step) ([], node) ∧
    (∀ fuel, maxResolutionDepth < fuel → r.resolveAt fuel [] node = r.resolve node) ∧
    (∀ active s name args n, r.Reaches ([], node) (active, .typeReference s name args) →
      name.identText? = some n → n ∈ active → r.resolve node = none) ∧
    (∀ active t, r.Reaches ([], node) (active, t) →
      active.length ≤ maxResolutionDepth ∧ active.Nodup) :=
  ⟨step_wellFounded.apply _, fun _ hfuel => resolveAt_eq_resolve hfuel node,
    fun _ _ _ _ _ h hn hmem => resolve_eq_none_of_reaches_active h hn hmem,
    fun _ _ h => reaches_stack h (by simp)⟩

/-- `type A = B; type B = A`, as a file binds it. -/
def circularAliases : Resolver :=
  { table := DeclarationTable.ofStatements
      [.typeAlias Span.none {} (.ident Span.none "A") none
          (.typeReference Span.none (.ident Span.none "B") none),
        .typeAlias Span.none {} (.ident Span.none "B") none
          (.typeReference Span.none (.ident Span.none "A") none)],
    typeParams := [] }

theorem resolve_terminates_and_rejects_cycles_circular :
    circularAliases.Reaches ([], .typeReference Span.none (.ident Span.none "A") none)
        (["A", "B"], .typeReference Span.none (.ident Span.none "A") none) ∧
      circularAliases.resolve (.typeReference Span.none (.ident Span.none "A") none) = none := by
  have hA : circularAliases.Expands [] (.typeReference Span.none (.ident Span.none "A") none) "A"
      (.alias (.typeAlias Span.none {} (.ident Span.none "A") none
        (.typeReference Span.none (.ident Span.none "B") none))) :=
    ⟨⟨_, _, rfl, rfl⟩, rfl, rfl, by simp, by decide⟩
  have hB : circularAliases.Expands ["A"] (.typeReference Span.none (.ident Span.none "B") none)
      "B" (.alias (.typeAlias Span.none {} (.ident Span.none "B") none
        (.typeReference Span.none (.ident Span.none "A") none))) :=
    ⟨⟨_, _, rfl, rfl⟩, rfl, rfl, by simp, by decide⟩
  have hreach : circularAliases.Reaches ([], .typeReference Span.none (.ident Span.none "A") none)
      (["A", "B"], .typeReference Span.none (.ident Span.none "A") none) :=
    Relation.ReflTransGen.tail (Relation.ReflTransGen.single (.expandAlias hA)) (.expandAlias hB)
  exact ⟨hreach, (resolve_terminates_and_rejects_cycles circularAliases _).2.2.1 _ _ _ _ "A"
    hreach rfl (by simp)⟩

end Resolver

end ParamNarrow
