import ParamNarrow.Proofs.Decisions
import ParamNarrow.Proofs.Reads
/-!
# The reported types are projections

What a run reports, stated over every source and every function of it. Every reported type
projects the parameter at its position onto the fields the body reads (`ProjectsParameter`). The
reported types are exactly those of the parameters that qualify (`Qualifies`), in increasing order
of position. A field the body reads as `p.key`, `p?.key` or `p[k]` is never dropped. A parameter
that the body passes on anywhere is never narrowed.
-/

namespace ParamNarrow

open Narrowing

/-- The reported type `s` projects the parameter at its position in `function`. The parameter is
named `s.parameterName`, its annotation resolves to `shape`, and the type is named after the
function and the position. Its fields are the names of `shape` that the body reads, in
declaration order: a non-empty, strict sublist of those names, with no repeats. The parameter does
not escape. -/
def ProjectsParameter (t : DeclarationTable) (functionName : String) (function : Node)
    (s : SynthesizedType) : Prop :=
  ∃ parameter shape, function.parameters[s.parameterIndex]? = some parameter ∧
    parameter.parameterName? = some s.parameterName ∧
    t.resolveParameter function parameter = some shape ∧
    s.name = typeName functionName s.parameterIndex ∧
    s.fields = (shape.map (·.name)).filter (· ∈ usedFields function.body? s.parameterName) ∧
    s.fields ≠ [] ∧ s.fields.Sublist (shape.map (·.name)) ∧ s.fields ≠ shape.map (·.name) ∧
    s.fields.Nodup ∧ escapes function.body? s.parameterName = false

/-- The parameter at position `i` of `function` is to be narrowed. It is named `name` by an
identifier and does not escape. The names its annotation resolves to meet the fields read from it
in a non-empty, strict part. -/
def Qualifies (t : DeclarationTable) (function : Node) (i : Nat) (name : String) : Prop :=
  ∃ parameter shape, function.parameters[i]? = some parameter ∧
    parameter.parameterName? = some name ∧ escapes function.body? name = false ∧
    t.resolveParameter function parameter = some shape ∧
    (shape.map (·.name)).filter (· ∈ usedFields function.body? name) ≠ [] ∧
    (shape.map (·.name)).filter (· ∈ usedFields function.body? name) ≠ shape.map (·.name)

section Function

variable {t : DeclarationTable} {functionName : String} {function : Node}

theorem ProjectsParameter.qualifies {s : SynthesizedType}
    (h : ProjectsParameter t functionName function s) :
    Qualifies t function s.parameterIndex s.parameterName := by
  obtain ⟨parameter, shape, hp, hn, hres, _, hfields, hne, _, hstrict, _, hesc⟩ := h
  exact ⟨parameter, shape, hp, hn, hesc, hres, hfields ▸ hne, hfields ▸ hstrict⟩

theorem projectsParameter_report {d : NarrowedType} (hd : d ∈ narrowed t functionName function) :
    ProjectsParameter t functionName function d.report := by
  obtain ⟨i, hi⟩ := mem_narrowed_iff.1 hd
  obtain ⟨parameter, name, hp, hn, hdec⟩ := decisions_getElem?_eq_some hi
  obtain ⟨hesc, hname, hty, hidx, shape, hres, hfields, hne, hlen⟩ := narrowParameter_eq_some hdec
  obtain rfl : name = d.parameterName := Option.some.inj (hn.symm.trans hname)
  subst hidx
  have hnames : d.report.fields =
      (shape.map (·.name)).filter (· ∈ usedFields function.body? d.parameterName) := by
    rw [← keptFields_names, ← hfields]
    rfl
  have hsub : d.report.fields.Sublist (shape.map (·.name)) := hnames ▸ List.filter_sublist
  refine ⟨parameter, shape, hp, hname, hres, hty, hnames, ?_, hsub, ?_, ?_, hesc⟩
  · simpa [NarrowedType.report] using hne
  · intro heq
    exact hlen (by simpa [NarrowedType.report] using congrArg List.length heq)
  · exact hsub.nodup (DeclarationTable.resolveParameter_distinctNames hres)

theorem exists_narrowed_of_qualifies {i : Nat} {name : String} (hq : Qualifies t function i name) :
    ∃ d ∈ narrowed t functionName function, d.parameterIndex = i ∧ d.parameterName = name := by
  obtain ⟨parameter, shape, hp, hn, hesc, hres, hne, hstrict⟩ := hq
  rw [← keptFields_names] at hne hstrict
  have hkept : keptFields shape (usedFields function.body? name) ≠ [] := by
    simpa using hne
  have hlt : (keptFields shape (usedFields function.body? name)).length < shape.length := by
    have hsub : (keptFields shape (usedFields function.body? name)).Sublist shape :=
      List.filter_sublist
    refine Nat.lt_of_le_of_ne hsub.length_le fun heq => hstrict ?_
    rw [hsub.eq_of_length heq]
  obtain ⟨d, hd⟩ : ∃ d, narrowParameter t functionName function i parameter
      (usedFields function.body? name) false = some d :=
    narrowParameter_isSome hn hres hkept hlt
  have hdec : (decisions t functionName function)[i]? = some (some d) := by
    rw [decisions_getElem?_of_parameter hp hn, hesc, hd]
  obtain ⟨_, hname, _, hidx, _⟩ := narrowParameter_eq_some hd
  exact ⟨d, mem_narrowed_iff.2 ⟨i, hdec⟩, hidx, Option.some.inj (hname.symm.trans hn)⟩

end Function

/-- What a report of the narrowed types must say about the implementation of `functionName`. Every
type projects a parameter of it. A type is reported for a parameter exactly when the parameter
qualifies. The types come in increasing order of position. -/
def ReportsNarrowing (t : DeclarationTable) (functionName : String) (types : List SynthesizedType) :
    Prop :=
  (∀ s ∈ types, ∃ entry, t.implementation? functionName = some entry ∧
    ProjectsParameter t functionName entry.node s) ∧
  (∀ entry, t.implementation? functionName = some entry → ∀ i name,
    (∃ s ∈ types, s.parameterIndex = i ∧ s.parameterName = name) ↔ Qualifies t entry.node i name) ∧
  (types.map (·.parameterIndex)).Pairwise (· < ·)

section Run

variable {f fileName text : String} {o : NarrowOptions} {r : NarrowReport}

theorem exists_implementation_of_mem_types (h : narrowSource f fileName text o = .ok r)
    {s : SynthesizedType} (hs : s ∈ r.types) :
    ∃ entry, (sourceTable fileName text).implementation? f = some entry := by
  cases he : (sourceTable fileName text).implementation? f with
  | none =>
    rw [narrowSource_eq_of_none h he] at hs
    cases hs
  | some entry => exact ⟨entry, rfl⟩

theorem projectsParameter_of_mem_types (h : narrowSource f fileName text o = .ok r)
    {entry : FunctionEntry} (he : (sourceTable fileName text).implementation? f = some entry)
    {s : SynthesizedType} (hs : s ∈ r.types) :
    ProjectsParameter (sourceTable fileName text) f entry.node s := by
  rw [narrowSource_types h he] at hs
  obtain ⟨d, hd, rfl⟩ := List.mem_map.1 hs
  exact projectsParameter_report hd

/-- A file whose function `f` reads the field `a` of its parameter `p`, of type `A` with fields
`a` and `b`, and passes its parameter `q` to a call. -/
def narrowingSample : String := "type A=\x7ba;b\x7d\nfunction f(p:A,q:A)\x7bp.a;g(q)\x7d"

theorem narrowingSample_run :
    (narrowSource "f" "a.ts" narrowingSample {}).toOption.map (·.types) =
        some ([⟨"InF1", "p", 0, ["a"]⟩] : List SynthesizedType) ∧
      (((sourceTable "a.ts" narrowingSample).implementation? "f").bind (·.node.body?)).map
        (fun body => escapes (some body) "q") = some true := by
  decide +kernel

/-- A run reports exactly the parameters of the implementation that qualify, each projected onto
the fields its body reads, in increasing order of position. -/
theorem narrowSource_reports_narrowing (h : narrowSource f fileName text o = .ok r) :
    ReportsNarrowing (sourceTable fileName text) f r.types := by
  refine ⟨fun s hs => ?_, fun entry he i name => ⟨?_, ?_⟩, ?_⟩
  · obtain ⟨entry, he⟩ := exists_implementation_of_mem_types h hs
    exact ⟨entry, he, projectsParameter_of_mem_types h he hs⟩
  · rintro ⟨s, hs, rfl, rfl⟩
    exact (projectsParameter_of_mem_types h he hs).qualifies
  · intro hq
    obtain ⟨d, hd, hidx, hname⟩ : ∃ d ∈ narrowed (sourceTable fileName text) f entry.node,
        d.parameterIndex = i ∧ d.parameterName = name := exists_narrowed_of_qualifies hq
    refine ⟨d.report, ?_, hidx, hname⟩
    rw [narrowSource_types h he]
    exact List.mem_map_of_mem hd
  · cases he : (sourceTable fileName text).implementation? f with
    | none => simp [narrowSource_eq_of_none h he]
    | some entry =>
      rw [narrowSource_types h he, List.map_map]
      exact narrowed_indices_sorted

theorem narrowSource_reports_narrowing_sample :
    ∃ r, narrowSource "f" "a.ts" narrowingSample {} = .ok r ∧
      r.types = [⟨"InF1", "p", 0, ["a"]⟩] ∧
      ReportsNarrowing (sourceTable "a.ts" narrowingSample) "f" r.types := by
  obtain ⟨r, hr, htypes⟩ := Except.exists_eq_ok narrowingSample_run.1
  exact ⟨r, hr, htypes, narrowSource_reports_narrowing hr⟩

/-- A narrowed type keeps every field of its parameter's declared type that the body reads from
the bare identifier, as `p.key`, `p?.key`, or `p[k]` with `k` a string, template or numeric
literal of text `key`. -/
theorem narrowSource_keeps_read_fields (h : narrowSource f fileName text o = .ok r)
    {s : SynthesizedType} (hs : s ∈ r.types) :
    ∃ entry parameter shape, (sourceTable fileName text).implementation? f = some entry ∧
      entry.node.parameters[s.parameterIndex]? = some parameter ∧
      (sourceTable fileName text).resolveParameter entry.node parameter = some shape ∧
      ∀ body (m : Node) key, entry.node.body? = some body → m.Occurs body →
        m.ReadsField s.parameterName key → key ∈ shape.map (·.name) → key ∈ s.fields := by
  obtain ⟨entry, he⟩ := exists_implementation_of_mem_types h hs
  obtain ⟨parameter, shape, hp, _, hres, _, hfields, -⟩ := projectsParameter_of_mem_types h he hs
  refine ⟨entry, parameter, shape, he, hp, hres, fun body m key hb hm hread hkey => ?_⟩
  rw [hfields, List.mem_filter, hb]
  exact ⟨hkey, by simpa using mem_usedFields_of_reads hm hread⟩

theorem narrowSource_keeps_read_fields_sample :
    ∃ r s, narrowSource "f" "a.ts" narrowingSample {} = .ok r ∧ s ∈ r.types ∧
      ∃ entry parameter shape,
        (sourceTable "a.ts" narrowingSample).implementation? "f" = some entry ∧
        entry.node.parameters[s.parameterIndex]? = some parameter ∧
        (sourceTable "a.ts" narrowingSample).resolveParameter entry.node parameter = some shape ∧
        ∀ body (m : Node) key, entry.node.body? = some body → m.Occurs body →
          m.ReadsField s.parameterName key → key ∈ shape.map (·.name) → key ∈ s.fields := by
  obtain ⟨r, hr, htypes⟩ := Except.exists_eq_ok narrowingSample_run.1
  have hs : (⟨"InF1", "p", 0, ["a"]⟩ : SynthesizedType) ∈ r.types := by
    simp [htypes]
  exact ⟨r, _, hr, hs, narrowSource_keeps_read_fields hr hs⟩

/-- Only reads from the bare identifier are collected. A read through parentheses, a read in the
initializer of a later parameter, and a hexadecimal key for a numeric field are all missed. The
fields they read, all declared, are dropped. -/
theorem narrowSource_drops_unrecognized_reads :
    (narrowSource "f" "a.ts"
        "type A=\x7ba;b;c;16\x7d\nfunction f(p:A,q=p.b)\x7bp.a;(p).c;p[0x10]\x7d" {}).toOption.map
      (·.types) = some [⟨"InF1", "p", 0, ["a"]⟩] := by
  decide +kernel

/-- A parameter that the body passes on anywhere, nested functions included, is not narrowed,
whatever fields the body also reads from it. -/
theorem narrowSource_skips_passed_parameter (h : narrowSource f fileName text o = .ok r)
    {entry : FunctionEntry} (he : (sourceTable fileName text).implementation? f = some entry)
    {body m : Node} {p : String} (hb : entry.node.body? = some body) (hm : m.Occurs body)
    (hp : m.PassesOn p) : ∀ s ∈ r.types, s.parameterName ≠ p := by
  rintro s hs rfl
  obtain ⟨-, -, -, -, -, -, -, -, -, -, -, hesc⟩ := projectsParameter_of_mem_types h he hs
  have hpass : escapes (some body) s.parameterName = true := escapes_iff.2 ⟨m, hm, hp⟩
  rw [hb, hpass] at hesc
  cases hesc

theorem narrowSource_skips_passed_parameter_sample :
    ∃ (r : NarrowReport) (entry : FunctionEntry) (body m : Node),
      narrowSource "f" "a.ts" narrowingSample {} = .ok r ∧
      (sourceTable "a.ts" narrowingSample).implementation? "f" = some entry ∧
      entry.node.body? = some body ∧ m.Occurs body ∧ m.PassesOn "q" ∧
      r.types = [⟨"InF1", "p", 0, ["a"]⟩] ∧ ∀ s ∈ r.types, s.parameterName ≠ "q" := by
  obtain ⟨r, hr, htypes⟩ := Except.exists_eq_ok narrowingSample_run.1
  obtain ⟨body, hbody, hq⟩ := Option.map_eq_some_iff.1 narrowingSample_run.2
  obtain ⟨entry, he, hb⟩ := Option.bind_eq_some_iff.1 hbody
  obtain ⟨m, hm, hp⟩ := escapes_iff.1 hq
  exact ⟨r, entry, body, m, hr, he, hb, hm, hp, htypes,
    narrowSource_skips_passed_parameter hr he hb hm hp⟩

end Run

end ParamNarrow
