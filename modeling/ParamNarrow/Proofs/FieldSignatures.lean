import ParamNarrow.Proofs.FieldNames
import ParamNarrow.Proofs.Decisions
/-!
# The signatures of a resolved field

A field of a resolved type is declared by exactly one property signature, or by one or more method
signatures: a known name takes more signatures only as overloads of a method
(`Field.addOverloads` adds nothing to a property and only methods to a method), so a property and
a method of one name never share a field. Every signature of a field declares the field's name,
and the field's type and flags are read from its first signature, which no merge replaces.

`Field.WellFormed` says so of one field; it is a `ShapeInvariant` of every field of a list, so it
holds of every resolved type (`resolveParameter_shape_wellFormed`).
-/

namespace ParamNarrow

namespace Node

/-- Whether a member is a property signature. -/
def isPropertySignature : Node → Bool
  | .signature _ .property .. => true
  | _ => false

/-- The field name a property or method signature declares; none for other members, call
signatures and computed names. -/
def signatureName? : Node → Option String
  | .signature _ kind _ name .. => if kind == .call then none else name.bind propertyNameText?
  | _ => none

/-- The type a signature gives its field: a property's annotation; a method gives none. -/
def signatureType : Node → Option Node
  | .signature _ .property _ _ _ _ _ type => type
  | _ => none

/-- Whether a signature is marked optional. -/
def signatureOptional : Node → Bool
  | .signature _ _ _ _ question .. => question
  | _ => false

/-- Whether a signature is read-only. -/
def signatureReadonly : Node → Bool
  | .signature _ _ mods .. => mods.readonly
  | _ => false

end Node

/-- A field as resolution builds it. -/
structure Field.WellFormed (f : Field) : Prop where
  /-- One property signature, or one or more method signatures. -/
  kinds : (∃ p, f.members = [p] ∧ p.isPropertySignature) ∨
    (f.members ≠ [] ∧ ∀ m ∈ f.members, m.isMethodSignature)
  /-- Every signature declares the field's name. -/
  names : ∀ m ∈ f.members, m.signatureName? = some f.name
  /-- The type and the flags are those of the first signature. -/
  first : ∀ m ∈ f.members.head?, f.type = m.signatureType ∧
    f.optional = m.signatureOptional ∧ f.readonly = m.signatureReadonly

namespace Field.WellFormed

variable {f : Field}

theorem members_ne_nil (hf : f.WellFormed) : f.members ≠ [] := by
  rcases hf.kinds with ⟨p, hp, -⟩ | ⟨hne, -⟩
  · simp [hp]
  · exact hne

/-- Overloads join a method and leave a property as it is. -/
theorem addOverloads (hf : f.WellFormed) {more : List Node}
    (hmore : ∀ m ∈ more, m.signatureName? = some f.name) : (f.addOverloads more).WellFormed := by
  unfold Field.addOverloads
  split
  case isFalse => exact hf
  case isTrue hall =>
    have hne := hf.members_ne_nil
    refine ⟨.inr ⟨by simp [hne], ?_⟩, ?_, ?_⟩
    · intro m hm
      rcases List.mem_append.1 hm with hm | hm
      · exact List.all_eq_true.1 hall m hm
      · exact (List.mem_filter.1 hm).2
    · intro m hm
      rcases List.mem_append.1 hm with hm | hm
      · exact hf.names m hm
      · exact hmore m (List.mem_filter.1 hm).1
    · intro m hm
      obtain ⟨x, xs, hx⟩ := List.exists_cons_of_ne_nil hne
      rw [hx, List.cons_append, List.head?_cons] at hm
      exact hf.first m (by rw [hx]; exact hm)

theorem markIntersected (hf : f.WellFormed) : { f with intersected := true }.WellFormed :=
  ⟨hf.kinds, hf.names, hf.first⟩

end Field.WellFormed

/-- Every field of the list is well formed. -/
def AllWellFormed (fields : List Field) : Prop :=
  ∀ f ∈ fields, f.WellFormed

namespace AllWellFormed

variable {fields : List Field}

theorem updateField (h : AllWellFormed fields) (name : String) {g : Field → Field}
    (hg : ∀ f, f.name = name → f.WellFormed → (g f).WellFormed) :
    AllWellFormed (ParamNarrow.updateField fields name g) := by
  intro f hf
  obtain ⟨f₀, hf₀, rfl⟩ := List.mem_map.1 hf
  split
  next hname => exact hg f₀ (beq_iff_eq.1 hname) (h f₀ hf₀)
  next => exact h f₀ hf₀

theorem append (h : AllWellFormed fields) {f : Field} (hf : f.WellFormed) :
    AllWellFormed (fields ++ [f]) := by
  intro g hg
  rcases List.mem_append.1 hg with hg | hg
  · exact h g hg
  · exact (List.mem_singleton.1 hg) ▸ hf

theorem mergeDeclared (h : AllWellFormed fields) {more : List Field} (hmore : AllWellFormed more) :
    AllWellFormed (ParamNarrow.mergeDeclared fields more) :=
  foldl_addByName_invariant AllWellFormed Field.WellFormed
    (fun acc f => ParamNarrow.updateField acc f.name (·.addOverloads f.members))
    (fun _ f hacc hf _ => hacc.updateField f.name fun _ hg hwf =>
      hwf.addOverloads fun m hm => hg ▸ hf.names m hm)
    (fun _ _ hacc hf _ => hacc.append hf) more hmore h

theorem mergeInherited (h : AllWellFormed fields) {more : List Field} (hmore : AllWellFormed more) :
    AllWellFormed (ParamNarrow.mergeInherited fields more) :=
  foldl_addByName_invariant AllWellFormed Field.WellFormed (fun acc _ => acc)
    (fun _ _ hacc _ _ => hacc) (fun _ _ hacc hf _ => hacc.append hf) more hmore h

theorem mergeIntersected (h : AllWellFormed fields) {more : List Field}
    (hmore : AllWellFormed more) : AllWellFormed (ParamNarrow.mergeIntersected fields more) :=
  foldl_addByName_invariant AllWellFormed Field.WellFormed
    (fun acc f => ParamNarrow.updateField acc f.name fun g => { g with intersected := true })
    (fun _ f hacc _ _ => hacc.updateField f.name fun _ _ hwf => hwf.markIntersected)
    (fun _ _ hacc hf _ => hacc.append hf) more hmore h

end AllWellFormed

/-! ### Collecting members, one signature at a time -/

/-- The field a signature opens under the name `n`: the signature alone, with the type and flags
read from it. -/
def Node.openedField (m : Node) (n : String) : Field :=
  { name := n, members := [m], type := m.signatureType, optional := m.signatureOptional,
    readonly := m.signatureReadonly, intersected := false }

section Collect

variable {fields : List Field} {m : Node} {rest : List Node} {n : String}

theorem collectMembersFrom_cons_none (h : m.signatureName? = none) :
    collectMembersFrom fields (m :: rest) = none := by
  cases m
  case signature kind _ name _ _ _ _ =>
    simp only [Node.signatureName?] at h
    simp only [collectMembersFrom]
    split
    · rfl
    · rename_i hkind
      rw [if_neg hkind] at h
      rw [h]
  all_goals rfl

theorem collectMembersFrom_cons_known (h : m.signatureName? = some n)
    (hk : fields.any (·.name == n)) :
    collectMembersFrom fields (m :: rest) =
      collectMembersFrom (updateField fields n (·.addOverloads [m])) rest := by
  cases m
  case signature kind _ name _ _ _ _ =>
    simp only [Node.signatureName?] at h
    split at h
    · cases h
    · rename_i hkind
      simp [collectMembersFrom, hkind, h, hk]
  all_goals cases h

theorem collectMembersFrom_cons_fresh (h : m.signatureName? = some n)
    (hk : ¬ fields.any (·.name == n)) :
    collectMembersFrom fields (m :: rest) = collectMembersFrom (fields ++ [m.openedField n]) rest := by
  cases m
  case signature kind _ name _ _ _ _ =>
    simp only [Node.signatureName?] at h
    split at h
    · cases h
    · rename_i hkind
      cases kind <;> simp_all [collectMembersFrom, Node.openedField, Node.signatureType,
        Node.signatureOptional, Node.signatureReadonly]
  all_goals cases h

end Collect

theorem openedField_wellFormed {m : Node} {n : String} (h : m.signatureName? = some n) :
    (m.openedField n).WellFormed := by
  refine ⟨?_, by simpa [Node.openedField] using h, by simp [Node.openedField]⟩
  cases m
  case signature kind _ _ _ _ _ _ =>
    cases kind
    case property => exact .inl ⟨_, rfl, rfl⟩
    case method => exact .inr ⟨by simp [Node.openedField], by simp [Node.openedField, Node.isMethodSignature]⟩
    case call => simp [Node.signatureName?] at h
  all_goals cases h

theorem collectMembersFrom_allWellFormed {fields out : List Field} (h : AllWellFormed fields)
    {members : List Node} (hc : collectMembersFrom fields members = some out) :
    AllWellFormed out := by
  induction members generalizing fields with
  | nil =>
    simp only [collectMembersFrom, Option.some.injEq] at hc
    exact hc ▸ h
  | cons m rest ih =>
    cases hname : m.signatureName? with
    | none =>
      rw [collectMembersFrom_cons_none hname] at hc
      cases hc
    | some n =>
      by_cases hk : fields.any (·.name == n)
      · rw [collectMembersFrom_cons_known hname hk] at hc
        refine ih (h.updateField n fun f hf hwf => hwf.addOverloads ?_) hc
        simpa [hf] using hname
      · rw [collectMembersFrom_cons_fresh hname hk] at hc
        exact ih (h.append (openedField_wellFormed hname)) hc

theorem shapeInvariant_allWellFormed : ShapeInvariant AllWellFormed where
  members := collectMembersFrom_allWellFormed fun _ h => by cases h
  nil := fun _ h => by cases h
  declared h hmore := h.mergeDeclared hmore
  inherited h hmore := h.mergeInherited hmore
  intersected h hmore := h.mergeIntersected hmore

theorem DeclarationTable.resolveParameter_allWellFormed {t : DeclarationTable}
    {function parameter : Node} {fs : List Field}
    (h : t.resolveParameter function parameter = some fs) : AllWellFormed fs :=
  shapeInvariant_allWellFormed.of_resolveParameter h

/-- The fields of a parameter's resolved type have distinct names. Each is declared by one
property signature or by one or more method signatures, each of which declares the field's name;
its type is the first signature's annotation when that is a property and none for a method, and
it is optional and read-only as the first signature is. -/
theorem DeclarationTable.resolveParameter_shape_wellFormed {t : DeclarationTable}
    {function parameter : Node} {fs : List Field}
    (h : t.resolveParameter function parameter = some fs) :
    DistinctNames fs ∧ ∀ f ∈ fs, f.WellFormed :=
  ⟨DeclarationTable.resolveParameter_distinctNames h, DeclarationTable.resolveParameter_allWellFormed h⟩

/-- A parameter typed by an interface declared twice, with a base, intersected with an object
type: `m` is one field with two method signatures. -/
def mergedInterfaceSample : String :=
  "interface B\x7bm():void;z\x7d\ninterface M extends B\x7bm(x):void;n?\x7d\n" ++
    "interface M\x7bm(y):void;readonly r\x7d\nfunction f(p:M&\x7bk\x7d)\x7b\x7d"

theorem resolveParameter_shape_wellFormed_sample :
    ∃ entry parameter fs,
      (sourceTable "a.ts" mergedInterfaceSample).implementation? "f" = some entry ∧
      entry.node.parameters[0]? = some parameter ∧
      (sourceTable "a.ts" mergedInterfaceSample).resolveParameter entry.node parameter = some fs ∧
      fs.map (fun f => (f.name, f.members.length)) =
        [("m", 2), ("n", 1), ("r", 1), ("z", 1), ("k", 1)] ∧
      DistinctNames fs ∧ ∀ f ∈ fs, f.WellFormed := by
  have hrun : (((sourceTable "a.ts" mergedInterfaceSample).implementation? "f").bind fun e =>
      e.node.parameters[0]?.bind fun p =>
        ((sourceTable "a.ts" mergedInterfaceSample).resolveParameter e.node p).map
          (·.map fun f => (f.name, f.members.length))) =
      some [("m", 2), ("n", 1), ("r", 1), ("z", 1), ("k", 1)] := by
    decide +kernel
  obtain ⟨entry, he, hp⟩ := Option.bind_eq_some_iff.1 hrun
  obtain ⟨parameter, hparam, hres⟩ := Option.bind_eq_some_iff.1 hp
  obtain ⟨fs, hfs, hnames⟩ := Option.map_eq_some_iff.1 hres
  exact ⟨entry, parameter, fs, he, hparam, hfs, hnames,
    DeclarationTable.resolveParameter_shape_wellFormed hfs⟩

end ParamNarrow
