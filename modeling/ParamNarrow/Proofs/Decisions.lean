import ParamNarrow.Narrowing.Run
import ParamNarrow.Proofs.FieldNames
/-!
# The narrowing decision and the report

One spec lemma for each step from a parameter to the report. `narrowParameter_eq_some` says all
that a narrowed parameter satisfies and `narrowParameter_isSome` when a parameter is narrowed;
`decisions` decides each parameter at its own position (`mem_narrowed_iff`), so the narrowed types
come in increasing order of position (`narrowed_indices_sorted`); and a run reports exactly the
narrowed types of the implementation's decisions (`narrowSource_cases`, `narrowSource_types`). Without an
implementation a run only prints the file it read (`narrowSource_eq_of_none`), and printing is not
a fixed point: read back, printed text can print differently, or not read back cleanly at all.
-/

namespace ParamNarrow

namespace Narrowing

variable {t : DeclarationTable} {functionName : String} {function : Node}

/-- The narrowed types of a function: its decisions that narrow. -/
def narrowed (t : DeclarationTable) (functionName : String) (function : Node) :
    List NarrowedType :=
  (decisions t functionName function).filterMap id

theorem mem_keptFields {shape : List Field} {used : List String} {f : Field} :
    f ∈ keptFields shape used ↔ f ∈ shape ∧ f.name ∈ used := by
  simp [keptFields]

theorem keptFields_names (shape : List Field) (used : List String) :
    (keptFields shape used).map (·.name) = (shape.map (·.name)).filter (· ∈ used) := by
  simp [keptFields, List.filter_map, Function.comp_def]

/-- What a narrowed parameter satisfies: it is a named parameter that does not escape, its
annotation resolves, and it keeps the fields read from it, a non-empty strict part of the resolved
ones, under the name of its position. -/
theorem narrowParameter_eq_some {index : Nat} {parameter : Node} {used : List String}
    {escaped : Bool} {d : NarrowedType}
    (h : narrowParameter t functionName function index parameter used escaped = some d) :
    escaped = false ∧ parameter.parameterName? = some d.parameterName ∧
      d.name = typeName functionName index ∧ d.parameterIndex = index ∧
      ∃ shape, t.resolveParameter function parameter = some shape ∧
        d.fields = keptFields shape used ∧ d.fields ≠ [] ∧ d.fields.length ≠ shape.length := by
  unfold narrowParameter at h
  split at h
  case h_2 => cases h
  case h_1 =>
    split at h
    · cases h
    rename_i hread
    simp only [Bool.or_eq_true, not_or, Bool.not_eq_true] at hread
    generalize hres : t.resolveParameter function _ = res at h
    cases res with
    | none => cases h
    | some shape =>
      simp only at h
      split at h
      · cases h
      rename_i hkept
      simp only [Bool.or_eq_true, not_or, Bool.not_eq_true, List.isEmpty_eq_false_iff,
        beq_eq_false_iff_ne, ne_eq] at hkept
      cases h
      exact ⟨hread.1, rfl, rfl, rfl, shape, rfl, rfl, hkept.1, hkept.2⟩

/-- A named parameter that does not escape, whose annotation resolves to fields of which those
read are a non-empty strict part, is narrowed. -/
theorem narrowParameter_isSome {index : Nat} {parameter : Node} {used : List String}
    {name : String} {shape : List Field} (hname : parameter.parameterName? = some name)
    (hshape : t.resolveParameter function parameter = some shape)
    (hne : keptFields shape used ≠ []) (hlt : (keptFields shape used).length < shape.length) :
    ∃ d, narrowParameter t functionName function index parameter used false = some d := by
  unfold DeclarationTable.resolveParameter at hshape
  split at hshape
  case h_2 => cases hshape
  case h_1 s rest ns text question type init =>
    have htext : text = name := by
      simpa [Node.parameterName?, Node.identText?] using hname
    subst htext
    have hused : used.isEmpty = false := by
      obtain ⟨f, hf⟩ := List.exists_mem_of_ne_nil _ hne
      exact List.isEmpty_eq_false_iff.2 (List.ne_nil_of_mem (mem_keptFields.1 hf).2)
    have hkept : (keptFields shape used).isEmpty = false := List.isEmpty_eq_false_iff.2 hne
    have hlen : ((keptFields shape used).length == shape.length) = false := by
      simpa using Nat.ne_of_lt hlt
    simp [narrowParameter, DeclarationTable.resolveParameter, hshape, hused, hkept, hlen]

/-! ### One decision per parameter -/

theorem decisions_getElem?_eq_some {i : Nat} {d : NarrowedType}
    (h : (decisions t functionName function)[i]? = some (some d)) :
    ∃ parameter name, function.parameters[i]? = some parameter ∧
      parameter.parameterName? = some name ∧
      narrowParameter t functionName function i parameter (usedFields function.body? name)
        (escapes function.body? name) = some d := by
  rw [decisions, List.getElem?_mapIdx] at h
  cases hp : function.parameters[i]? with
  | none => simp [hp] at h
  | some parameter =>
    cases hn : parameter.parameterName? with
    | none => simp [hp, hn] at h
    | some name =>
      simp only [hp, hn, Option.map_some, Option.some.injEq] at h
      exact ⟨parameter, name, rfl, hn, h⟩

theorem decisions_getElem?_of_parameter {i : Nat} {parameter : Node} {name : String}
    (hp : function.parameters[i]? = some parameter) (hn : parameter.parameterName? = some name) :
    (decisions t functionName function)[i]? = some (narrowParameter t functionName function i
      parameter (usedFields function.body? name) (escapes function.body? name)) := by
  simp [decisions, hp, hn]

theorem parameterIndex_of_decision {i : Nat} {d : NarrowedType}
    (h : (decisions t functionName function)[i]? = some (some d)) : d.parameterIndex = i := by
  obtain ⟨_, _, _, _, hd⟩ := decisions_getElem?_eq_some h
  exact (narrowParameter_eq_some hd).2.2.2.1

theorem mem_narrowed_iff {d : NarrowedType} :
    d ∈ narrowed t functionName function ↔
      ∃ i : Nat, (decisions t functionName function)[i]? = some (some d) := by
  rw [narrowed, List.mem_filterMap]
  simp only [id_eq, exists_eq_right]
  exact List.mem_iff_getElem?

theorem narrowed_indices_sorted :
    ((narrowed t functionName function).map (·.parameterIndex)).Pairwise (· < ·) := by
  rw [List.pairwise_map, narrowed, List.pairwise_filterMap, List.pairwise_iff_getElem]
  intro i j hi hj hij d hd d' hd'
  have hdi := parameterIndex_of_decision (List.getElem?_eq_some_iff.2 ⟨hi, hd⟩)
  have hdj := parameterIndex_of_decision (List.getElem?_eq_some_iff.2 ⟨hj, hd'⟩)
  omega

theorem rewriteFunction_eq_none_iff {ds : List (Option NarrowedType)} :
    rewriteFunction function ds = none ↔ ds.filterMap id = [] := by
  have hall : ds.all Option.isNone = true ↔ ds.filterMap id = [] := by
    simp [List.all_eq_true, List.filterMap_eq_nil_iff]
  rw [← hall, rewriteFunction]
  split
  · exact iff_of_true rfl ‹_›
  · exact iff_of_false (Option.some_ne_none _) ‹_›

end Narrowing

/-! ### The report of a run -/

theorem parseCleanly_eq_ok {fileName text : String} {file : SourceFile}
    (h : parseCleanly fileName text = .ok file) : file = (parseFile fileName text).1 := by
  unfold parseCleanly at h
  rcases hp : parseFile fileName text with ⟨parsed, diagnostics⟩
  simp only [hp] at h
  split at h
  · cases h
  · cases h
    rfl

/-- The declarations a run binds: the top-level statements of the file as parsed. -/
def sourceTable (fileName text : String) : DeclarationTable :=
  DeclarationTable.ofStatements (parseFile fileName text).1.statements

theorem Except.exists_eq_ok {ε α β : Type} {e : Except ε α} {g : α → β} {b : β}
    (h : e.toOption.map g = some b) : ∃ a, e = .ok a ∧ g a = b := by
  cases e with
  | error => simp [Except.toOption] at h
  | ok a => exact ⟨a, rfl, Option.some.inj h⟩

/-- Without an implementation of the function a run changes nothing: it reports no type and prints
the file as it was read. -/
theorem narrowSource_eq_of_none {f fileName text : String} {o : NarrowOptions}
    {r : NarrowReport} (h : narrowSource f fileName text o = .ok r)
    (hnone : (sourceTable fileName text).implementation? f = none) :
    r = { functionName := f, found := false, types := [],
          text := (parseFile fileName text).1.print o.print } := by
  unfold narrowSource at h
  unfold sourceTable at hnone
  cases hp : parseCleanly fileName text with
  | error e => simp [hp, bind, Except.bind] at h
  | ok file =>
    obtain rfl := parseCleanly_eq_ok hp
    simp only [hp, bind, Except.bind, hnone, pure, Except.pure, Except.ok.injEq] at h
    rw [← h]

/-- Printing a file read back from a run's output need not give that output again. An object
literal on one line is printed on one line, but a method inside it is spread over lines. The
printed literal now spans lines, so read back it is printed expanded. -/
theorem narrowSource_reprint_expands_object_literal :
    (narrowSource "f" "input.ts" "x = \x7b m() \x7b y; \x7d \x7d;\n" {}).toOption.map (·.text) =
        some "x = \x7b m() \x7b\n    y;\n\x7d \x7d;\n" ∧
      (narrowSource "f" "input.ts" "x = \x7b m() \x7b\n    y;\n\x7d \x7d;\n" {}).toOption.map
        (·.text) = some "x = \x7b\n    m() \x7b\n        y;\n    \x7d\n\x7d;\n" := by
  decide +kernel

/-- Printed text need not read back cleanly. The member access `1 .x` is printed as `1.x`, which
reads back as the numeric literal `1.` followed by `x`, a syntax error. -/
theorem print_joins_numeric_literal_and_dot :
    (parseFile "input.ts" "1 .x;\n").2 = [] ∧
      (parseFile "input.ts" "1 .x;\n").1.print {} = "1.x;\n" ∧
      (parseFile "input.ts" "1.x;\n").2.any Diagnostic.isError = true := by
  decide +kernel

/-- Once a run finds the implementation, either the rewrite leaves the function as it is, no type
is reported and the file is printed as parsed; or the run reports the narrowed types and prints the
file with the rewritten function and their declarations. -/
theorem narrowSource_cases {f fileName text : String} {o : NarrowOptions} {r : NarrowReport}
    (h : narrowSource f fileName text o = .ok r) {entry : FunctionEntry}
    (he : (sourceTable fileName text).implementation? f = some entry) :
    (Narrowing.rewriteFunction entry.node
          (Narrowing.decisions (sourceTable fileName text) f entry.node) = none ∧
        r.types = [] ∧ r.text = (parseFile fileName text).1.print o.print) ∨
      ∃ function', Narrowing.rewriteFunction entry.node
          (Narrowing.decisions (sourceTable fileName text) f entry.node) = some function' ∧
        r.types = (Narrowing.narrowed (sourceTable fileName text) f entry.node).map (·.report) ∧
        r.text = (Narrowing.rewriteFile o.projection (parseFile fileName text).1 entry function'
          (Narrowing.narrowed (sourceTable fileName text) f entry.node)).print o.print := by
  unfold narrowSource at h
  unfold sourceTable at he ⊢
  cases hp : parseCleanly fileName text with
  | error e => simp [hp, bind, Except.bind] at h
  | ok file =>
    obtain rfl := parseCleanly_eq_ok hp
    simp only [hp, bind, Except.bind, he, pure, Except.pure] at h
    split at h
    · rename_i hrw
      simp only [Except.ok.injEq] at h
      exact .inl ⟨hrw, by rw [← h], by rw [← h]⟩
    · rename_i function' hrw
      simp only [Except.ok.injEq] at h
      subst h
      refine .inr ⟨function', hrw, ?_, ?_⟩ <;> rw [Narrowing.narrowed]

/-- A run reports the narrowed types of the implementation's parameters. -/
theorem narrowSource_types {f fileName text : String} {o : NarrowOptions} {r : NarrowReport}
    (h : narrowSource f fileName text o = .ok r) {entry : FunctionEntry}
    (he : (sourceTable fileName text).implementation? f = some entry) :
    r.types = (Narrowing.narrowed (sourceTable fileName text) f entry.node).map (·.report) := by
  rcases narrowSource_cases h he with ⟨hrw, htypes, -⟩ | ⟨-, -, htypes, -⟩
  · rw [htypes, Narrowing.narrowed, Narrowing.rewriteFunction_eq_none_iff.1 hrw, List.map_nil]
  · exact htypes

end ParamNarrow
