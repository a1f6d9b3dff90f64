import ParamNarrow.Proofs.Projection
/-!
# What a run keeps of the file

The frame of a narrowing run. When the run narrows, the printed file is the parsed file with one
statement replaced: the implementation of the function, at its position in the statement list,
gives way to the rewritten function and one declaration per narrowed type, in parameter order.
Every other statement is the node that was parsed. The rewritten function differs from the
implementation only in its parameters, and a narrowed parameter only in its annotation, now a
reference to the new type. When nothing is narrowed the file is printed as it was parsed. Trees are
values, so the rewrite never changes the parsed file itself.

The frame does not extend to comments. The printer places them by source offsets, and the members
that a literal projection repeats carry the offsets of the declaration they come from, so the
comments before that declaration are printed inside the new type, and two runs on two functions
give different texts depending on which runs first.
-/

namespace ParamNarrow

open Narrowing

/-! ### Function entries sit at their position -/

namespace DeclarationTable

theorem addAlias_functions (t : DeclarationTable) (name : String) (node : Node) :
    (t.addAlias name node).functions = t.functions := by
  unfold addAlias
  split <;> rfl

theorem addInterface_functions (t : DeclarationTable) (name : String) (node : Node) :
    (t.addInterface name node).functions = t.functions := by
  unfold addInterface
  split <;> rfl

theorem bindStatement_functions (t : DeclarationTable) (i : Nat) (s : Node) :
    (t.bindStatement i s).functions = t.functions ∨
      ∃ name hasBody,
        (t.bindStatement i s).functions = t.functions ++ [(name, ⟨i, s, hasBody⟩)] := by
  unfold bindStatement
  split
  · split <;> simp [addAlias_functions]
  · split <;> simp [addInterface_functions]
  · split
    · exact .inr ⟨_, _, rfl⟩
    · exact .inl rfl
  · exact .inl rfl

theorem bindFrom_functions_at {ss : List Node} (rest : List Node) (t : DeclarationTable) (i : Nat)
    (hrest : ss.drop i = rest) (ht : ∀ e ∈ t.functions, ss[e.2.statementIndex]? = some e.2.node) :
    ∀ e ∈ (t.bindFrom i rest).functions, ss[e.2.statementIndex]? = some e.2.node := by
  -- on the statements left to bind, which are those of `ss` from position `i` on
  induction rest generalizing t i with
  | nil => exact ht
  | cons s rest ih =>
    have hs : ss[i]? = some s := by
      rw [← Nat.add_zero i, ← List.getElem?_drop, hrest]
      rfl
    have hnext : ss.drop (i + 1) = rest := by
      rw [← List.drop_drop, hrest]
      rfl
    refine ih (t.bindStatement i s) (i + 1) hnext ?_
    intro e he
    rcases bindStatement_functions t i s with hsame | ⟨name, hasBody, happend⟩
    · exact ht e (hsame ▸ he)
    · rw [happend, List.mem_append, List.mem_singleton] at he
      rcases he with he | rfl
      · exact ht e he
      · exact hs

theorem ofStatements_functions_at {ss : List Node} {e : String × FunctionEntry}
    (he : e ∈ (ofStatements ss).functions) : ss[e.2.statementIndex]? = some e.2.node :=
  bindFrom_functions_at ss {} 0 List.drop_zero (by simp) e he

theorem getElem?_implementation? {ss : List Node} {name : String} {e : FunctionEntry}
    (h : (ofStatements ss).implementation? name = some e) :
    ss[e.statementIndex]? = some e.node := by
  obtain ⟨p, hp, rfl⟩ := List.mem_map.1 (List.mem_of_find?_eq_some h)
  exact ofStatements_functions_at (List.mem_filter.1 hp).1

end DeclarationTable

/-! ### The rewritten function -/

namespace Node

/-- `p'` is the parameter `p` annotated with a reference to the type `name`, with no type
arguments. Span, rest marker, binding, `?` and initializer are those of `p`. -/
def Reannotates (name : String) (p p' : Node) : Prop :=
  ∃ span rest binding question type init,
    p = .parameter span rest binding question type init ∧
    p' = .parameter span rest binding question
      (some (.typeReference Span.none (.ident Span.none name) none)) init

theorem reannotates_withType {p : Node} {n : String} (name : String)
    (h : p.parameterName? = some n) :
    p.Reannotates name (p.withType (synthesizedReference name none)) := by
  cases p
  case parameter span rest binding question type init =>
    exact ⟨span, rest, binding, question, type, init, rfl, rfl⟩
  all_goals cases h

theorem eq_function_of_parameters_ne_nil {fn : Node} (h : fn.parameters ≠ []) :
    ∃ span kind mods asterisk name typeParams params comma result body bare,
      fn = .function span kind mods asterisk name typeParams params comma result body bare := by
  cases fn
  case function span kind mods asterisk name typeParams params comma result body bare =>
    exact ⟨span, kind, mods, asterisk, name, typeParams, params, comma, result, body, bare, rfl⟩
  all_goals exact absurd rfl h

end Node

/-- `rewritten` is the function `original` with new parameters and nothing else changed: span,
kind, modifiers, `*`, name, type parameters, trailing comma, return type and body are kept. The
parameter at a position that a type of `narrowed` is for is re-annotated with that type's name;
every other parameter is the same node. -/
def RewritesParameters (narrowed : List NarrowedType) (original rewritten : Node) : Prop :=
  ∃ span kind mods asterisk name typeParams params params' comma result body bare,
    original = .function span kind mods asterisk name typeParams params comma result body bare ∧
    rewritten = .function span kind mods asterisk name typeParams params' comma result body bare ∧
    params'.length = params.length ∧
    ∀ i p p', params[i]? = some p → params'[i]? = some p' →
      (∃ d ∈ narrowed, d.parameterIndex = i ∧ p.Reannotates d.name p') ∨
        ((∀ d ∈ narrowed, d.parameterIndex ≠ i) ∧ p' = p)

namespace Narrowing

variable {t : DeclarationTable} {functionName : String} {function : Node}

theorem decisions_getElem?_of_mem_narrowed {d : NarrowedType}
    (hd : d ∈ narrowed t functionName function) :
    (decisions t functionName function)[d.parameterIndex]? = some (some d) := by
  obtain ⟨i, hi⟩ := mem_narrowed_iff.1 hd
  rwa [parameterIndex_of_decision hi]

theorem narrowed_ne_nil_of_rewriteFunction {function' : Node}
    (h : rewriteFunction function (decisions t functionName function) = some function') :
    narrowed t functionName function ≠ [] := by
  intro hnil
  rw [rewriteFunction_eq_none_iff.2 hnil] at h
  cases h

theorem rewriteFunction_rewritesParameters {function' : Node}
    (h : rewriteFunction function (decisions t functionName function) = some function') :
    RewritesParameters (narrowed t functionName function) function function' := by
  have hparams : function.parameters ≠ [] := by
    intro hnil
    apply narrowed_ne_nil_of_rewriteFunction h
    simp [narrowed, decisions, hnil]
  obtain ⟨span, kind, mods, asterisk, name, typeParams, params, comma, result, body, bare, rfl⟩ :=
    Node.eq_function_of_parameters_ne_nil hparams
  unfold rewriteFunction at h
  split at h
  · cases h
  cases h
  refine ⟨span, kind, mods, asterisk, name, typeParams, params, _, comma, result, body, bare, rfl,
    rfl, List.length_mapIdx, fun i p p' hp hp' => ?_⟩
  rw [List.getElem?_mapIdx] at hp'
  change Option.map _ params[i]? = some p' at hp'
  rw [hp, Option.map_some, Option.some.injEq] at hp'
  subst hp'
  by_cases hnarrowed : ∃ d, (decisions t functionName
      (.function span kind mods asterisk name typeParams params comma result body bare))[i]? =
        some (some d)
  · obtain ⟨d, hds⟩ := hnarrowed
    obtain ⟨parameter, n, hparam, hn, -⟩ := decisions_getElem?_eq_some hds
    obtain rfl : parameter = p := Option.some.inj (hparam.symm.trans hp)
    refine .inl ⟨d, mem_narrowed_iff.2 ⟨i, hds⟩, parameterIndex_of_decision hds, ?_⟩
    rw [hds]
    exact Node.reannotates_withType d.name hn
  · refine .inr ⟨fun d hd hi => hnarrowed ⟨d, hi ▸ decisions_getElem?_of_mem_narrowed hd⟩, ?_⟩
    split
    · rename_i d hds
      exact absurd ⟨d, hds⟩ hnarrowed
    · rfl

end Narrowing

/-! ### The printed file -/

/-- The printed text `r.text` of a run on `file`, whose top-level declarations are `t`, keeps the
frame of the rewrite. A run that narrows nothing prints the file as parsed. A run that narrows
prints the file with only the statement of the implementation replaced, by the rewritten function
followed by the declaration of each narrowed type, in parameter order and exported exactly when
the function is. The rewritten function differs from the implementation only in the annotations of
its narrowed parameters. -/
def ReplacesOnlyImplementation (file : SourceFile) (t : DeclarationTable) (f : String)
    (o : NarrowOptions) (r : NarrowReport) : Prop :=
  (r.types = [] → r.text = file.print o.print) ∧
  (r.types ≠ [] → ∃ entry function', t.implementation? f = some entry ∧
    file.statements[entry.statementIndex]? = some entry.node ∧
    RewritesParameters (narrowed t f entry.node) entry.node function' ∧
    r.types = (narrowed t f entry.node).map (·.report) ∧
    ((narrowed t f entry.node).map (·.parameterIndex)).Pairwise (· < ·) ∧
    r.text = { file with
      statements := file.statements.take entry.statementIndex ++
        function' :: (narrowed t f entry.node).map (fun (d : NarrowedType) =>
          .typeAlias Span.none { exported := entry.node.isExported } (.ident Span.none d.name) none
            (projection o.projection d)) ++
        file.statements.drop (entry.statementIndex + 1) }.print o.print)

theorem RewritesParameters.isExported_eq {narrowed : List NarrowedType} {original rewritten : Node}
    (h : RewritesParameters narrowed original rewritten) :
    rewritten.isExported = original.isExported := by
  obtain ⟨-, -, -, -, -, -, -, -, -, -, -, -, rfl, rfl, -⟩ := h
  rfl

theorem rewriteFile_eq {style : ProjectionStyle} {file : SourceFile} {entry : FunctionEntry}
    {function : Node} {narrowed : List NarrowedType}
    (hk : entry.statementIndex < file.statements.length) :
    rewriteFile style file entry function narrowed =
      { file with statements := file.statements.take entry.statementIndex ++
          function :: narrowed.map (typeDeclaration style function.isExported) ++
          file.statements.drop (entry.statementIndex + 1) } := by
  simp [rewriteFile, splice, hk]

section Run

variable {f fileName text : String} {o : NarrowOptions} {r : NarrowReport}

theorem narrowSource_text_of_types_eq_nil (h : narrowSource f fileName text o = .ok r)
    (hnil : r.types = []) : r.text = (parseFile fileName text).1.print o.print := by
  cases he : (sourceTable fileName text).implementation? f with
  | none => rw [narrowSource_eq_of_none h he]
  | some entry =>
    rcases narrowSource_cases h he with ⟨-, -, htext⟩ | ⟨function', hrw, htypes, -⟩
    · exact htext
    · rw [hnil, eq_comm, List.map_eq_nil_iff] at htypes
      exact absurd htypes (narrowed_ne_nil_of_rewriteFunction hrw)

/-- A run replaces only the statement of the implementation: by the rewritten function, which
differs only in the annotations of its narrowed parameters, and the declarations of the narrowed
types. Every other statement is printed as parsed. -/
theorem narrowSource_replaces_only_implementation (h : narrowSource f fileName text o = .ok r) :
    ReplacesOnlyImplementation (parseFile fileName text).1 (sourceTable fileName text) f o r := by
  refine ⟨narrowSource_text_of_types_eq_nil h, fun hne => ?_⟩
  obtain ⟨s, hs⟩ := List.exists_mem_of_ne_nil _ hne
  obtain ⟨entry, he⟩ := exists_implementation_of_mem_types h hs
  rcases narrowSource_cases h he with ⟨-, htypes, -⟩ | ⟨function', hrw, htypes, htext⟩
  · exact absurd htypes hne
  have hrewrites := rewriteFunction_rewritesParameters hrw
  have hat : (parseFile fileName text).1.statements[entry.statementIndex]? = some entry.node :=
    DeclarationTable.getElem?_implementation? he
  refine ⟨entry, function', he, hat, hrewrites, htypes, narrowed_indices_sorted, ?_⟩
  rw [htext, rewriteFile_eq (List.getElem?_eq_some_iff.1 hat).1, hrewrites.isExported_eq]
  rfl

theorem narrowSource_replaces_only_implementation_sample :
    ∃ r, narrowSource "f" "a.ts" narrowingSample {} = .ok r ∧
      r.types = [⟨"InF1", "p", 0, ["a"]⟩] ∧
      ReplacesOnlyImplementation (parseFile "a.ts" narrowingSample).1
        (sourceTable "a.ts" narrowingSample) "f" {} r := by
  obtain ⟨r, hr, htypes⟩ := Except.exists_eq_ok narrowingSample_run.1
  exact ⟨r, hr, htypes, narrowSource_replaces_only_implementation hr⟩

end Run

/-! ### Comments are not part of the frame -/

/-- A comment between two statements can be printed inside a narrowed type. The literal projection
repeats the member `a` of `A`, whose offset lies after the comment, so the comment counts as one
before that member; it is not printed before `type A`, the statement it stands before. -/
theorem narrowSource_prints_comment_inside_literal :
    (narrowSource "f" "a.ts" "function f(p:A)\x7bp.a\x7d\n//c\ntype A=\x7ba;b\x7d"
        { projection := .literal }).toOption.map (·.text) =
      some ("function f(p: InF1) \x7b\n    p.a;\n\x7d\n" ++
        "type InF1 = \x7b\n    //c\n    a;\n\x7d;\ntype A = \x7b a; b; \x7d;\n") := by
  decide +kernel

/-- A file whose type `A` has a comment after its member `a`; `f` reads `a` of its parameter and
`g` reads `b`. -/
def commentedMemberSample : String :=
  "function f(p:A)\x7bp.a\x7dfunction g(q:A)\x7bq.b\x7dtype A=\x7ba;//t\nb\x7d"

/-- Two runs on two functions give different texts in the two orders. Narrowing `f` first prints
the comment after `a` as its trailing comment inside the type of `f`. Narrowing `g` first pulls it
before `b` into the type of `g`, and the second run pulls it from there before `a`. -/
theorem narrowSource_order_moves_comment :
    ((narrowSource "f" "a.ts" commentedMemberSample { projection := .literal }).bind fun r =>
        narrowSource "g" "a.ts" r.text { projection := .literal }).toOption.map (·.text) =
      some ("function f(p: InF1) \x7b\n    p.a;\n\x7d\n" ++
        "type InF1 = \x7b\n    a; //t\n\x7d;\n" ++
        "function g(q: InG1) \x7b\n    q.b;\n\x7d\ntype InG1 = \x7b\n    b;\n\x7d;\n" ++
        "type A = \x7b\n    a;\n    b;\n\x7d;\n") ∧
    ((narrowSource "g" "a.ts" commentedMemberSample { projection := .literal }).bind fun r =>
        narrowSource "f" "a.ts" r.text { projection := .literal }).toOption.map (·.text) =
      some ("function f(p: InF1) \x7b\n    p.a;\n\x7d\n" ++
        "type InF1 = \x7b\n    //t\n    a;\n\x7d;\n" ++
        "function g(q: InG1) \x7b\n    q.b;\n\x7d\ntype InG1 = \x7b\n    b;\n\x7d;\n" ++
        "type A = \x7b\n    a;\n    b;\n\x7d;\n") := by
  decide +kernel

end ParamNarrow
