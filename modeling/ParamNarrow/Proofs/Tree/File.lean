import ParamNarrow.Proofs.Tree.Statements
import ParamNarrow.Proofs.Agree.Levels
import ParamNarrow.Proofs.ScannerTiling
/-!
# The tree of a parsed file is well formed

The rules read well-formed nodes from a sound grammar (`Grammar.Sound`). The lowest level of the
grammar a text is parsed with reports an error wherever it is entered, so a clean parse never
enters it and every level is sound (`Grammar.ofFuel_sound`).

For a text parsed with no diagnostic, every node of its tree is then well formed
(`parseFile_good`): binary operators bind as their precedences say and types nest as tightly as
they bind (`parseFile_respects_precedence`), and the spans nest inside the text
(`parseFile_spans_nest`).
-/

namespace ParamNarrow

namespace Parser

theorem failNode_spec {Q : Parser → Node → Parser → Prop} : Spec failNode Q := fun p hp =>
  ((errorAtToken_spec _ p hp).bind fun _ q hq _ =>
    (missingIdent_spec q hq).mono fun _ _ _ hF => hF).of_dirty fun _ _ hF => hF

theorem clean_of_allDiagnostics {p : Parser} (h : p.allDiagnostics = []) : Clean p := by
  have hlen := congrArg List.length h
  unfold allDiagnostics at hlen
  rw [List.length_mergeSort, List.length_append, Array.length_toList] at hlen
  unfold Clean
  simp only [List.length_nil] at hlen
  omega

theorem advance_start_sane (fileName text : String) : Sane (advance (start fileName text)) := by
  have hstart := start_text fileName text
  obtain ⟨hscan, htext, hle⟩ := Scanner.scan_valid _ (start_eofAtEnd fileName text)
  have hpos : (start fileName text).scanner.pos ≤ (start fileName text).scanner.size := by
    rw [Scanner.size, hstart]
    exact (Scanner.skipShebang_boundary (Scanner.new text) (Text.isBoundary_zero text)).le_size
  have hreached : Relation.ReflTransGen Scanner.Move
      (Scanner.new (start fileName text).scanner.text) (start fileName text).scanner := by
    rw [hstart]
    exact .single (.shebang _)
  exact (skipInvalid_moves _ _ ⟨hscan, Scanner.scan_pos_le hpos, hle, fun _ => rfl,
    reached_tail hreached (.scan _) htext⟩).1

end Parser

open ParamNarrow.Parser

/-! ### Sound levels -/

theorem Grammar.Sound.rules {g : Grammar} (h : g.Sound) : g.rules.Sound where
  statement := statement_spec h
  block := block_spec h
  expression := expression_spec h
  assignment := assignment_spec h
  unary := unaryBody_spec h
  binary := binaryBody_spec h
  newExpression := newExpression_spec h
  type := typeNode_spec h
  typeOperator := typeOperator_spec h
  bindingName := bindingName_spec h

/-- Every level of the grammar is sound: the lowest reports an error wherever it is entered, and
each level above runs the rules over the one below. -/
theorem Grammar.ofFuel_sound : ∀ n, (Grammar.ofFuel n).Sound
  | 0 =>
    { statement := fun p hp =>
        (errorAtToken_spec _ p hp).bind fun _ _ hq _ => Runs.pure hq fun _ hF => hF.elim
      block := failNode_spec
      expression := failNode_spec
      assignment := failNode_spec
      unary := failNode_spec
      binary := fun _ => failNode_spec
      newExpression := failNode_spec
      type := failNode_spec
      typeOperator := failNode_spec
      bindingName := failNode_spec }
  | n + 1 => (ofFuel_sound n).rules

/-! ### The parsed tree -/

theorem parseFileWith_good {g : Grammar} (h : g.Sound) {fileName text : String}
    (hclean : (parseFileWith g fileName text).2 = []) :
    (parseFileWith g fileName text).1.stop ≤ text.utf8ByteSize ∧
      Node.ReadAll 0 (parseFileWith g fileName text).1.statements
        (parseFileWith g fileName text).1.stop := by
  have hruns := statementList_spec h true _ (advance_start_sane fileName text)
  have hstep : (do nextToken; statementList g true : ParserM (List Node)).run
      (start fileName text) = (statementList g true).run (advance (start fileName text)) := rfl
  unfold Runs at hruns
  unfold parseFileWith at hclean ⊢
  simp only [hstep] at hclean ⊢
  generalize (statementList g true).run (advance (start fileName text)) = r at hruns hclean ⊢
  obtain ⟨statements, q⟩ := r
  obtain ⟨hq, hf, hpost⟩ := hruns
  obtain ⟨hgood, hplaced⟩ := hpost (clean_of_allDiagnostics hclean)
  have hsize : q.scanner.size = text.utf8ByteSize := by
    rw [hf.size_eq, Scanner.size, advance_text (start_eofAtEnd fileName text), start_text]
  exact ⟨hsize ▸ hq.pos_le, hgood,
    hplaced.mono (Nat.zero_le _) (hq.prevEnd_le.trans hq.valid.tokenStart_le_pos)⟩

/-- A text parsed with no diagnostic: the end of the file lies inside the text, and its
statements are well formed and lie in order before it. -/
theorem parseFile_good {fileName text : String} (hclean : (parseFile fileName text).2 = []) :
    (parseFile fileName text).1.stop ≤ text.utf8ByteSize ∧
      Node.ReadAll 0 (parseFile fileName text).1.statements (parseFile fileName text).1.stop := by
  exact parseFileWith_good (Grammar.ofFuel_sound _) hclean

theorem Diagnostic.eq_nil_of_no_error {ds : List Diagnostic}
    (h : ds.any Diagnostic.isError = false) : ds = [] := by
  cases ds with
  | nil => rfl
  | cons d ds => simp [Diagnostic.isError, Message.category] at h

/-- Binary operators bind as their precedences say and types nest as tightly as they bind. In a
text parsed with no error diagnostic, every node that the operator loop builds binds no looser
than the operator of its left operand and strictly tighter than that of its right one, except
that `**` groups to the right, and its operator token stands between them; a union's
constituents are intersections or tighter, an intersection's are type operators or tighter, and
the element of an array type and the object of an indexed access are plain or parenthesized
types. Every diagnostic the parser reports is an error, so these texts are the ones parsed with
none. -/
theorem parseFile_respects_precedence (fileName text : String)
    (hclean : (parseFile fileName text).2.any Diagnostic.isError = false) :
    ∀ s ∈ (parseFile fileName text).1.statements, ∀ n, Node.Occurs n s →
      n.OperandsOK ∧ n.NestingOK := by
  intro s hs n hn
  have hlocal : n.Local := (parseFile_good (Diagnostic.eq_nil_of_no_error hclean)).2.1 s hs n hn
  exact ⟨hlocal.operands, hlocal.nesting⟩

theorem parseFile_respects_precedence_sample :
    (parseFile "input.ts" "x = a - b * c ** d ** e;\n").2.any Diagnostic.isError = false ∧
      ∀ s ∈ (parseFile "input.ts" "x = a - b * c ** d ** e;\n").1.statements, ∀ n,
        Node.Occurs n s → n.OperandsOK ∧ n.NestingOK :=
  have hclean :
      (parseFile "input.ts" "x = a - b * c ** d ** e;\n").2.any Diagnostic.isError = false := by
    decide +kernel
  ⟨hclean, parseFile_respects_precedence _ _ hclean⟩

theorem parseFile_nodes_inside {fileName text : String}
    (hclean : (parseFile fileName text).2.any Diagnostic.isError = false) :
    ∀ s ∈ (parseFile fileName text).1.statements, ∀ n, Node.Occurs n s →
      n.pos ≤ n.stop ∧ n.stop ≤ text.utf8ByteSize := by
  obtain ⟨hstop, hgood, hplaced⟩ := parseFile_good (Diagnostic.eq_nil_of_no_error hclean)
  intro s hs n hn
  have hinside := (hgood s hs).occurs_inside hn
  have hs_inside := hplaced.inside (fun c hc => (hgood c hc).local.pos_le) s hs
  exact ⟨(hgood s hs n hn).pos_le, by omega⟩

/-- Spans nest. In a text parsed with no error diagnostic, the file ends inside the text and its
statements lie in order before that end; every node of the tree lies inside the text, spans at
least one byte unless it is the hole of an array, and has its children in order inside its span,
each ending at or before the next begins. -/
theorem parseFile_spans_nest (fileName text : String)
    (hclean : (parseFile fileName text).2.any Diagnostic.isError = false) :
    (parseFile fileName text).1.stop ≤ text.utf8ByteSize ∧
      Node.Placed 0 (parseFile fileName text).1.stop (parseFile fileName text).1.statements ∧
      ∀ s ∈ (parseFile fileName text).1.statements, ∀ n, Node.Occurs n s →
        n.pos ≤ n.stop ∧ n.stop ≤ text.utf8ByteSize ∧ (n.pos < n.stop ∨ n.IsOmitted) ∧
          Node.Placed n.pos n.stop n.children := by
  obtain ⟨hstop, hgood, hplaced⟩ := parseFile_good (Diagnostic.eq_nil_of_no_error hclean)
  refine ⟨hstop, hplaced, fun s hs n hn => ?_⟩
  have hlocal : n.Local := hgood s hs n hn
  have hinside := parseFile_nodes_inside hclean s hs n hn
  exact ⟨hinside.1, hinside.2, hlocal.nonempty, hlocal.children⟩

theorem parseFile_spans_nest_sample :
    (parseFile "input.ts" "let t: A | B[] = [a, , b];\n").2.any Diagnostic.isError = false ∧
      (parseFile "input.ts" "let t: A | B[] = [a, , b];\n").1.stop ≤ 27 ∧
      Node.Placed 0 (parseFile "input.ts" "let t: A | B[] = [a, , b];\n").1.stop
        (parseFile "input.ts" "let t: A | B[] = [a, , b];\n").1.statements ∧
      ∀ s ∈ (parseFile "input.ts" "let t: A | B[] = [a, , b];\n").1.statements, ∀ n,
        Node.Occurs n s → n.pos ≤ n.stop ∧ n.stop ≤ 27 ∧
          (n.pos < n.stop ∨ n.IsOmitted) ∧ Node.Placed n.pos n.stop n.children :=
  have hclean :
      (parseFile "input.ts" "let t: A | B[] = [a, , b];\n").2.any Diagnostic.isError = false := by
    decide +kernel
  ⟨hclean, parseFile_spans_nest _ _ hclean⟩

end ParamNarrow
