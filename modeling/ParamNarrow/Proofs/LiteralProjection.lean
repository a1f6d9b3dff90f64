import ParamNarrow.Proofs.FieldSignatures
/-!
# The literal projection reads back as the kept fields

In the literal style a narrowed type is spelled as an object type that lists every signature of
every kept field, field after field. Collecting the members of that object type again regroups
them into the same fields: the first signature of a field opens it under its name with the type
and flags read from it, which are the field's own (`Field.WellFormed`); the signatures after it
are methods of the same name and join it as overloads; and no two kept fields share a name, so no
field takes another's signatures. A type with a field that several parts of an intersection
declare has no signatures to list and is spelled with `Pick` in both styles.
-/

namespace ParamNarrow

open Narrowing

theorem updateField_append_fresh {acc : List Field} {g : Field} (h : Field → Field)
    (hfresh : ¬ acc.any (·.name == g.name)) :
    updateField (acc ++ [g]) g.name h = acc ++ [h g] := by
  have hacc : updateField acc g.name h = acc := by
    refine (List.map_congr_left fun f hf => ?_).trans (List.map_id acc)
    have : (f.name == g.name) = false := by
      simpa using fun heq => hfresh (List.any_eq_true.2 ⟨f, hf, by simp [heq]⟩)
    simp [this]
  simp only [updateField, List.map_append] at hacc ⊢
  rw [hacc]
  simp

theorem addOverloads_method {g : Field} {m : Node}
    (hg : ∀ x ∈ g.members, x.isMethodSignature) (hm : m.isMethodSignature) :
    g.addOverloads [m] = { g with members := g.members ++ [m] } := by
  simp [Field.addOverloads, List.all_eq_true.2 hg, hm]

theorem collectMembersFrom_overloads {acc : List Field} {g : Field}
    (hfresh : ¬ acc.any (·.name == g.name)) (hg : ∀ x ∈ g.members, x.isMethodSignature)
    {ms : List Node} (hms : ∀ x ∈ ms, x.isMethodSignature ∧ x.signatureName? = some g.name)
    (rest : List Node) :
    collectMembersFrom (acc ++ [g]) (ms ++ rest) =
      collectMembersFrom (acc ++ [{ g with members := g.members ++ ms }]) rest := by
  induction ms generalizing g with
  | nil => simp
  | cons x ms ih =>
    have hx := hms x List.mem_cons_self
    have hknown : (acc ++ [g]).any (·.name == g.name) := by simp
    rw [List.cons_append, collectMembersFrom_cons_known hx.2 hknown,
      updateField_append_fresh _ hfresh, addOverloads_method hg hx.1]
    have hg' : ∀ y ∈ g.members ++ [x], y.isMethodSignature := by
      intro y hy
      rcases List.mem_append.1 hy with hy | hy
      · exact hg y hy
      · exact (List.mem_singleton.1 hy) ▸ hx.1
    rw [ih (g := { g with members := g.members ++ [x] }) hfresh hg'
      (fun y hy => hms y (List.mem_cons_of_mem x hy))]
    simp

theorem openedField_eq {f : Field} {m : Node} {ms : List Node} (hf : f.WellFormed)
    (hi : f.intersected = false) (hm : f.members = m :: ms) :
    m.openedField f.name = { f with members := [m] } := by
  obtain ⟨htype, hopt, hro⟩ := hf.first m (by simp [hm])
  cases f
  simp_all [Node.openedField]

theorem collectMembersFrom_field_members {acc : List Field} {f : Field} (hf : f.WellFormed)
    (hi : f.intersected = false) (hfresh : ¬ acc.any (·.name == f.name)) (rest : List Node) :
    collectMembersFrom acc (f.members ++ rest) = collectMembersFrom (acc ++ [f]) rest := by
  obtain ⟨m, ms, hm⟩ := List.exists_cons_of_ne_nil hf.members_ne_nil
  have hname : m.signatureName? = some f.name := hf.names m (by simp [hm])
  rw [hm, List.cons_append, collectMembersFrom_cons_fresh hname hfresh, openedField_eq hf hi hm]
  rcases hf.kinds with ⟨p, hp, -⟩ | ⟨-, hall⟩
  · obtain ⟨rfl, rfl⟩ : m = p ∧ ms = [] := by simpa [hm] using hp
    have : ({ f with members := [m] } : Field) = f := by
      cases f
      simp_all
    rw [List.nil_append, this]
  · have hms : ∀ x ∈ ms, x.isMethodSignature ∧ x.signatureName? = some f.name := fun x hx =>
      ⟨hall x (by simp [hm, hx]), hf.names x (by simp [hm, hx])⟩
    rw [collectMembersFrom_overloads (g := { f with members := [m] }) hfresh
      (by simpa using hall m (by simp [hm])) hms rest]
    have : ({ { f with members := [m] } with members := [m] ++ ms } : Field) = f := by
      cases f
      simp_all
    rw [this]

theorem collectMembersFrom_flatMap_members {acc fs : List Field} (hwf : AllWellFormed fs)
    (hi : ∀ f ∈ fs, f.intersected = false) (hd : DistinctNames (acc ++ fs)) :
    collectMembersFrom acc (fs.flatMap (·.members)) = some (acc ++ fs) := by
  induction fs generalizing acc with
  | nil => simp [collectMembersFrom]
  | cons f fs ih =>
    have hfresh : ¬ acc.any (·.name == f.name) := by
      intro hany
      obtain ⟨g, hg, hgn⟩ := List.any_eq_true.1 hany
      unfold DistinctNames at hd
      rw [List.map_append, List.nodup_append] at hd
      exact hd.2.2 _ (List.mem_map_of_mem hg) _ (by simp) (beq_iff_eq.1 hgn)
    rw [List.flatMap_cons, collectMembersFrom_field_members (hwf f List.mem_cons_self)
      (hi f List.mem_cons_self) hfresh]
    rw [ih (fun g hg => hwf g (List.mem_cons_of_mem f hg))
      (fun g hg => hi g (List.mem_cons_of_mem f hg)) (by simpa using hd)]
    simp

theorem narrowed_fields_wellFormed {t : DeclarationTable} {functionName : String}
    {function : Node} {d : NarrowedType} (hd : d ∈ narrowed t functionName function) :
    AllWellFormed d.fields ∧ DistinctNames d.fields := by
  obtain ⟨i, hi⟩ := mem_narrowed_iff.1 hd
  obtain ⟨parameter, name, -, -, hdec⟩ := decisions_getElem?_eq_some hi
  obtain ⟨-, -, -, -, shape, hres, hfields, -⟩ := narrowParameter_eq_some hdec
  have hsub : d.fields.Sublist shape := hfields ▸ List.filter_sublist
  exact ⟨fun f hf => DeclarationTable.resolveParameter_allWellFormed hres f (hsub.subset hf),
    (hsub.map fun f : Field => f.name).nodup (DeclarationTable.resolveParameter_distinctNames hres)⟩

/-- The declaration of a narrowed type in the literal style lists signatures that collect back
into exactly the kept fields: the same names in the same order, each with the same signatures,
type, optional and read-only flags. When some kept field is intersected, the literal style
declares the same `Pick` projection as the `Pick` style. -/
theorem typeDeclaration_literal_reads_back {t : DeclarationTable} {functionName : String}
    {function : Node} {d : NarrowedType} (hd : d ∈ narrowed t functionName function)
    (exported : Bool) :
    ((∀ f ∈ d.fields, f.intersected = false) →
      ∃ members, typeDeclaration .literal exported d =
          .typeAlias Span.none { exported } (.ident Span.none d.name) none
            (.typeLiteral Span.none members true) ∧
        collectMembers members = some d.fields) ∧
    ((∃ f ∈ d.fields, f.intersected = true) →
      typeDeclaration .literal exported d = typeDeclaration .pick exported d) := by
  obtain ⟨hwf, hdistinct⟩ := narrowed_fields_wellFormed hd
  refine ⟨fun hi => ⟨d.fields.flatMap (·.members), ?_, ?_⟩, fun hi => ?_⟩
  · have hany : d.fields.any (·.intersected) = false := by simpa using hi
    simp [typeDeclaration, projection, hany]
  · exact collectMembersFrom_flatMap_members hwf hi (by simpa using hdistinct)
  · have hany : d.fields.any (·.intersected) = true := by simpa using hi
    simp [typeDeclaration, projection, hany]

/-- A parameter of a type with an overloaded method `m`, of which the body reads `m` and `n`. -/
def overloadSample : String :=
  "type O=\x7bm(x):void;n;m(y):void;k\x7d\nfunction f(p:O)\x7bp.m;p.n\x7d"

theorem typeDeclaration_literal_reads_back_sample :
    ∃ entry d, (sourceTable "a.ts" overloadSample).implementation? "f" = some entry ∧
      d ∈ narrowed (sourceTable "a.ts" overloadSample) "f" entry.node ∧
      d.fields.map (fun f => (f.name, f.members.length)) = [("m", 2), ("n", 1)] ∧
      ((∀ f ∈ d.fields, f.intersected = false) →
        ∃ members, typeDeclaration .literal false d =
            .typeAlias Span.none { exported := false } (.ident Span.none d.name) none
              (.typeLiteral Span.none members true) ∧
          collectMembers members = some d.fields) ∧
      ((∃ f ∈ d.fields, f.intersected = true) →
        typeDeclaration .literal false d = typeDeclaration .pick false d) := by
  have hrun : ((sourceTable "a.ts" overloadSample).implementation? "f").map (fun e =>
      (narrowed (sourceTable "a.ts" overloadSample) "f" e.node).map
        (·.fields.map fun f => (f.name, f.members.length))) =
      some [[("m", 2), ("n", 1)]] := by
    decide +kernel
  obtain ⟨entry, he, hds⟩ := Option.map_eq_some_iff.1 hrun
  obtain ⟨d, hd, hfields⟩ : ∃ d ∈ narrowed (sourceTable "a.ts" overloadSample) "f" entry.node,
      d.fields.map (fun f => (f.name, f.members.length)) = [("m", 2), ("n", 1)] :=
    List.mem_map.1 (by rw [hds]; exact List.mem_singleton_self _)
  exact ⟨entry, d, he, hd, hfields, typeDeclaration_literal_reads_back hd false⟩

end ParamNarrow
