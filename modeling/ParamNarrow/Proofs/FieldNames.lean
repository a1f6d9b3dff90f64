import ParamNarrow.Binding.Shape
/-!
# A resolved type names each field once

The field list of a resolved type is built by appending fields to a list, and every way of adding
one (another member of the same object type, another declaration of a merged interface, an
inherited field, another part of an intersection) first looks the name up: a known name changes
the field already listed, through `updateField`, which keeps the names, and only an unknown name is
appended.

`ShapeInvariant` states that argument once for any property of field lists: a property that holds
of the fields a member list declares, and that each merge keeps, holds of every resolved type,
through aliases, parentheses, interfaces, their bases and intersections, at any depth of
references. Distinct names are such a property (`resolve_distinctNames`).
-/

namespace ParamNarrow

/-- No two fields of the list have the same name. -/
def DistinctNames (fields : List Field) : Prop :=
  (fields.map (·.name)).Nodup

theorem distinctNames_nil : DistinctNames [] :=
  List.nodup_nil

@[simp] theorem addOverloads_name (f : Field) (more : List Node) :
    (f.addOverloads more).name = f.name := by
  unfold Field.addOverloads
  split <;> rfl

theorem updateField_names (fields : List Field) (name : String) (g : Field → Field)
    (hg : ∀ f, (g f).name = f.name) :
    (updateField fields name g).map (·.name) = fields.map (·.name) := by
  induction fields with
  | nil => rfl
  | cons f fs ih =>
    simp only [updateField, List.map_cons] at ih ⊢
    rw [ih]
    split <;> simp [hg]

theorem DistinctNames.update {fields : List Field} (h : DistinctNames fields)
    (name : String) {g : Field → Field} (hg : ∀ f, (g f).name = f.name) :
    DistinctNames (updateField fields name g) := by
  unfold DistinctNames
  rw [updateField_names fields name g hg]
  exact h

theorem DistinctNames.append_fresh {fields : List Field} (h : DistinctNames fields) {f : Field}
    (fresh : ¬ fields.any (·.name == f.name)) : DistinctNames (fields ++ [f]) := by
  unfold DistinctNames
  rw [List.map_append, List.nodup_append]
  refine ⟨h, by simp, ?_⟩
  intro a ha b hb hab
  simp only [List.map_cons, List.map_nil, List.mem_singleton] at hb
  obtain ⟨g, hg, rfl⟩ := List.mem_map.1 ha
  exact fresh (List.any_eq_true.2 ⟨g, hg, by simp [hab, hb]⟩)

/-! ### Adding fields by name -/

theorem foldl_addByName_invariant (P : List Field → Prop) (Q : Field → Prop)
    (known : List Field → Field → List Field)
    (hknown : ∀ acc f, P acc → Q f → acc.any (·.name == f.name) → P (known acc f))
    (happend : ∀ acc f, P acc → Q f → ¬ acc.any (·.name == f.name) → P (acc ++ [f]))
    (more : List Field) (hmore : ∀ f ∈ more, Q f) {acc : List Field} (h : P acc) :
    P (more.foldl (fun acc f =>
      if acc.any (·.name == f.name) then known acc f else acc ++ [f]) acc) := by
  induction more generalizing acc with
  | nil => exact h
  | cons f rest ih =>
    have hf : Q f := hmore f List.mem_cons_self
    apply ih (fun g hg => hmore g (List.mem_cons_of_mem f hg))
    dsimp only
    split
    · exact hknown acc f h hf ‹_›
    · exact happend acc f h hf ‹_›

theorem DistinctNames.mergeDeclared {fields : List Field} (h : DistinctNames fields)
    (more : List Field) : DistinctNames (mergeDeclared fields more) :=
  foldl_addByName_invariant DistinctNames (fun _ => True)
    (fun acc f => updateField acc f.name (·.addOverloads f.members))
    (fun _ f hacc _ _ => hacc.update f.name (by simp))
    (fun _ _ hacc _ hfresh => hacc.append_fresh hfresh) more (fun _ _ => trivial) h

theorem DistinctNames.mergeInherited {fields : List Field} (h : DistinctNames fields)
    (more : List Field) : DistinctNames (mergeInherited fields more) :=
  foldl_addByName_invariant DistinctNames (fun _ => True) (fun acc _ => acc)
    (fun _ _ hacc _ _ => hacc) (fun _ _ hacc _ hfresh => hacc.append_fresh hfresh) more
    (fun _ _ => trivial) h

theorem DistinctNames.mergeIntersected {fields : List Field} (h : DistinctNames fields)
    (more : List Field) : DistinctNames (mergeIntersected fields more) :=
  foldl_addByName_invariant DistinctNames (fun _ => True)
    (fun acc f => updateField acc f.name fun g => { g with intersected := true })
    (fun _ f hacc _ _ => hacc.update f.name (fun _ => rfl))
    (fun _ _ hacc _ hfresh => hacc.append_fresh hfresh) more (fun _ _ => trivial) h

theorem collectMembersFrom_distinctNames {fields out : List Field} (h : DistinctNames fields)
    {members : List Node} (hc : collectMembersFrom fields members = some out) :
    DistinctNames out := by
  induction members generalizing fields with
  | nil =>
    simp only [collectMembersFrom, Option.some.injEq] at hc
    exact hc ▸ h
  | cons m rest ih =>
    cases m
    case signature kind _ name _ _ _ _ =>
      simp only [collectMembersFrom] at hc
      split at hc
      · cases hc
      · split at hc
        · cases hc
        · split at hc
          · exact ih (h.update _ (by simp)) hc
          · exact ih (h.append_fresh ‹_›) hc
    all_goals simp [collectMembersFrom] at hc

theorem collectMembers_distinctNames {members : List Node} {out : List Field}
    (hc : collectMembers members = some out) : DistinctNames out :=
  collectMembersFrom_distinctNames distinctNames_nil hc

/-! ### Properties that resolution keeps -/

theorem foldlM_invariant {α β : Type} (I : α → Prop) {step : α → β → Option α}
    (hstep : ∀ a b a', I a → step a b = some a' → I a') :
    ∀ (xs : List β) {a out : α}, I a → xs.foldlM step a = some out → I out
  | [], _, _, ha, h => by
    cases h
    exact ha
  | x :: xs, a, _, ha, h => by
    rw [List.foldlM_cons] at h
    obtain ⟨a', h1, h2⟩ := Option.bind_eq_some_iff.1 h
    exact foldlM_invariant I hstep xs (hstep a x a' ha h1) h2

namespace Resolver

theorem followReference_eq_some {r : Resolver} {active : List String}
    {next : List String → Node → Option (List Field)} {ref : Node} {fs : List Field}
    (h : r.followReference active next ref = some fs) :
    ∃ n d, declarationShape (next (active ++ [n])) d = some fs := by
  unfold followReference at h
  split at h
  · split at h
    · cases h
    · split at h
      · cases h
      · rename_i n _
        split at h
        · cases h
        · split at h
          · cases h
          · rename_i d _
            split at h
            · cases h
            · exact ⟨n, d, h⟩
  · cases h

end Resolver

/-- A property of field lists that resolution keeps: it holds of the fields a member list
declares, and each merge keeps it when both lists have it. -/
structure ShapeInvariant (P : List Field → Prop) : Prop where
  members : ∀ {ms fs}, collectMembers ms = some fs → P fs
  nil : P []
  declared : ∀ {fs more}, P fs → P more → P (mergeDeclared fs more)
  inherited : ∀ {fs more}, P fs → P more → P (mergeInherited fs more)
  intersected : ∀ {fs more}, P fs → P more → P (mergeIntersected fs more)

namespace ShapeInvariant

variable {P : List Field → Prop} (hP : ShapeInvariant P)
include hP

theorem of_shapeWith {follow : Node → Option (List Field)}
    (hfollow : ∀ r fs, follow r = some fs → P fs) (t : Node) :
    ∀ fs, shapeWith follow t = some fs → P fs := by
  refine shapeWith.induct follow (fun t => ∀ fs, shapeWith follow t = some fs → P fs)
    (fun acc ts => P acc → ∀ fs, intersectionShape follow acc ts = some fs → P fs)
    ?literal ?parenthesized ?intersection ?reference ?other ?nil ?part ?failed t
  case literal =>
    intro _ members _ fs h
    exact hP.members h
  case parenthesized =>
    intro _ t ih fs h
    rw [shapeWith] at h
    exact ih fs h
  case intersection =>
    intro _ ts ih fs h
    rw [shapeWith] at h
    exact ih hP.nil fs h
  case reference =>
    intro _ name args fs h
    exact hfollow _ fs h
  case other =>
    intro t h1 h2 h3 h4 fs h
    rw [shapeWith.eq_5 follow t h1 h2 h3 h4] at h
    cases h
  case nil =>
    intro acc hacc fs h
    simp only [intersectionShape, Option.some.injEq] at h
    exact h ▸ hacc
  case part =>
    intro acc m rest part hm ihm ih hacc fs h
    simp only [intersectionShape, hm] at h
    exact ih (hP.intersected hacc (ihm part hm)) fs h
  case failed =>
    intro acc m rest hm _ _ fs h
    simp [intersectionShape, hm] at h

theorem of_interfaceShape {resolve : Node → Option (List Field)}
    (hres : ∀ t fs, resolve t = some fs → P fs) {declarations : List Node} {fs : List Field}
    (h : interfaceShape resolve declarations = some fs) : P fs := by
  unfold interfaceShape at h
  obtain ⟨⟨fields, bases⟩, hown, hbases⟩ := Option.bind_eq_some_iff.1 h
  have hfields : P fields := by
    refine foldlM_invariant (fun a => P a.1) ?_ declarations hP.nil hown
    rintro ⟨acc, _⟩ d a' hacc hstep
    cases d
    case interfaceDeclaration _ _ _ typeParams heritage members =>
      dsimp only at hstep
      split at hstep
      · cases hstep
      · obtain ⟨more, hmore, rfl⟩ := Option.map_eq_some_iff.1 hstep
        exact hP.declared hacc (hP.members hmore)
    all_goals cases hstep
  refine foldlM_invariant P ?_ bases hfields hbases
  intro acc base a' hacc hstep
  obtain ⟨more, hmore, rfl⟩ := Option.map_eq_some_iff.1 hstep
  exact hP.inherited hacc (hres base more hmore)

theorem of_declarationShape {resolve : Node → Option (List Field)}
    (hres : ∀ t fs, resolve t = some fs → P fs) {d : TypeDeclaration} {fs : List Field}
    (h : declarationShape resolve d = some fs) : P fs := by
  unfold declarationShape at h
  split at h
  · split at h
    · cases h
    · exact hres _ fs h
  · cases h
  · exact hP.of_interfaceShape hres h

theorem of_resolveAt (r : Resolver) (fuel : Nat) :
    ∀ (active : List String) (node : Node) (fs : List Field),
      r.resolveAt fuel active node = some fs → P fs := by
  induction fuel with
  | zero =>
    intro _ _ _ h
    simp [Resolver.resolveAt] at h
  | succ fuel ih =>
    intro active node fs h
    rw [Resolver.resolveAt] at h
    refine hP.of_shapeWith ?_ node fs h
    intro ref fs' href
    obtain ⟨n, d, hd⟩ := Resolver.followReference_eq_some href
    exact hP.of_declarationShape (ih (active ++ [n])) hd

theorem of_resolve (r : Resolver) {node : Node} {fs : List Field} (h : r.resolve node = some fs) :
    P fs :=
  hP.of_resolveAt r _ _ node fs h

theorem of_resolveParameter {t : DeclarationTable} {function parameter : Node} {fs : List Field}
    (h : t.resolveParameter function parameter = some fs) : P fs := by
  unfold DeclarationTable.resolveParameter at h
  split at h
  · exact hP.of_resolve _ h
  · cases h

end ShapeInvariant

theorem shapeInvariant_distinctNames : ShapeInvariant DistinctNames where
  members := collectMembers_distinctNames
  nil := distinctNames_nil
  declared h _ := h.mergeDeclared _
  inherited h _ := h.mergeInherited _
  intersected h _ := h.mergeIntersected _

theorem Resolver.resolve_distinctNames (r : Resolver) {node : Node} {fs : List Field}
    (h : r.resolve node = some fs) : DistinctNames fs :=
  shapeInvariant_distinctNames.of_resolve r h

/-- The declared type of a parameter resolves to fields of distinct names. -/
theorem DeclarationTable.resolveParameter_distinctNames {t : DeclarationTable}
    {function parameter : Node} {fs : List Field}
    (h : t.resolveParameter function parameter = some fs) : DistinctNames fs :=
  shapeInvariant_distinctNames.of_resolveParameter h

end ParamNarrow
