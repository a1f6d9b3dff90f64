import ParamNarrow.Proofs.Agree.Statements
import ParamNarrow.Syntax.Parser.File
/-!
# The levels of recursion never run out

`Grammar.ofFuel n` agrees with every grammar of more levels from each valid scanner with credit
left below `n` (`Grammar.ofFuel_agreeBelow`): a level of fuel pays for a unit of credit, and each
rule asks one unit less of the level below it than its entry point asks of its callers, so the
rules over two grammars that agree below `n` agree below `n + 1` (`Grammar.AgreeBelow.rules`). The
levels `Grammar.fuelFor` gives a text pay eight units for each of its bytes with room to spare, so
a parse with more levels is the same parse (`parseFileWith_ofFuel`).

Every level of the grammar also goes forward from every valid scanner
(`Grammar.ofFuel_goesForward`), whatever credit it has.
-/

namespace ParamNarrow

namespace Parser

open Scanner

section Credit

variable {B c : Nat} {s : Scanner}

theorem Within.pred (h : Within (B + 1) c s) (hc : 1 ≤ c) : Within B (c - 1) s := by
  unfold Within at *
  omega

theorem Within.succ_of {d : Nat} (h : Within B d s) (hc : c ≤ d + 1) : Within (B + 1) c s := by
  unfold Within at *
  omega

theorem Within.zero_false (h : Within 0 c s) (hc : 1 ≤ c) : False := by
  unfold Within at h
  omega

theorem keeps_succ {α : Type} {k : Nat} {m m' : ParserM α} (h : ∀ c, k ≤ c → Keeps B c m m') :
    ∀ c, k + 1 ≤ c → Keeps (B + 1) c m m' := fun c hc =>
  (h (c - 1) (by omega)).mono (fun _ hs => hs.pred (by omega)) fun _ _ hs => hs.succ_of (by omega)

theorem Forward.of_keeps {α : Type} {m : ParserM α} (h : ∀ B, Keeps B c m m) : Forward m := by
  intro p hv _
  obtain ⟨heq, hlt, -⟩ := h (8 * p.scanner.rest + c) p hv (Nat.le_refl _)
  exact ⟨heq, hlt, trivial⟩

end Credit

theorem advance_text {p : Parser} (h : p.scanner.EofAtEnd) :
    (advance p).scanner.text = p.scanner.text :=
  (skipInvalid_leadsTo _ { p with prevEnd := p.scanner.pos, scanner := p.scanner.scan }
    (scan_valid p.scanner h).1).text_eq.trans (scan_valid p.scanner h).2.1

theorem start_text (fileName text : String) : (start fileName text).scanner.text = text := by
  unfold start Scanner.skipShebang
  dsimp only
  repeat' split
  all_goals rfl

theorem start_eofAtEnd (fileName text : String) : (start fileName text).scanner.EofAtEnd := by
  have htoken : (start fileName text).scanner.token = .unknown := by
    unfold start Scanner.skipShebang
    dsimp only
    repeat' split
    all_goals rfl
  intro he
  exact absurd (htoken.symm.trans he) (by decide)

end Parser

open ParamNarrow.Parser

/-! ### Two levels of the grammar -/

theorem Grammar.agreeBelow_zero (g g' : Grammar) : g.AgreeBelow g' 0 where
  statement _ hc := Agree.of_false fun _ hs => hs.zero_false (by omega)
  block _ hc := Agree.of_false fun _ hs => (hs.mono (Nat.le_add_right _ _)).zero_false hc
  expression _ hc := Agree.of_false fun _ hs => hs.zero_false (by omega)
  assignment _ hc := Agree.of_false fun _ hs => hs.zero_false (by omega)
  binary _ _ hc := Agree.of_false fun _ hs => hs.zero_false (by omega)
  unary _ hc := Agree.of_false fun _ hs => hs.zero_false (by omega)
  newExpression _ hc := Agree.of_false fun _ hs => hs.1.zero_false hc
  type _ hc := Agree.of_false fun _ hs => hs.zero_false (by omega)
  typeOperator _ hc := Agree.of_false fun _ hs => hs.zero_false hc
  bindingName _ hc := Agree.of_false fun _ hs => hs.zero_false hc

/-- The grammar one level above `g`: each entry point is its rule over `g`, as in
`Grammar.ofFuel`. -/
def Grammar.rules (g : Grammar) : Grammar where
  statement := fun p => Parser.statement g p
  block := fun p => Parser.block g p
  expression := fun p => Parser.expression g p
  assignment := fun p => Parser.assignment g p
  unary := fun p => Parser.unaryBody g p
  binary := fun prec p => Parser.binaryBody g prec p
  newExpression := fun p => Parser.newExpression g p
  type := fun p => Parser.typeNode g p
  typeOperator := fun p => Parser.typeOperator g p
  bindingName := fun p => Parser.bindingName g p

/-- One more level on each side: the rules agree below the lower level, one unit below what
their entry points ask. -/
theorem Grammar.AgreeBelow.rules {g g' : Grammar} {n : Nat} (h : g.AgreeBelow g' n) :
    g.rules.AgreeBelow g'.rules (n + 1) where
  statement := keeps_succ fun _ hc => statement_agree h hc
  block c hc := (block_agree h (c - 1)).mono
    (fun s hs => by
      generalize (if s.token = .openBraceToken then 0 else 6) = x at hs ⊢
      unfold Within at *
      omega)
    fun _ _ hs => hs.succ_of (by omega)
  expression := keeps_succ fun _ hc => expression_agree h hc
  assignment := keeps_succ fun _ hc => assignment_agree h hc
  binary c prec hc := keeps_succ (fun _ hc => binaryBody_agree h hc prec) c hc
  unary := keeps_succ fun _ hc => unaryBody_agree h hc
  newExpression c hc := (newExpression_agree h).at.mono (fun _ hs => ⟨hs.1.pred hc, hs.2⟩)
    fun _ _ hs => hs.succ_of (by omega)
  type := keeps_succ fun _ hc => typeNode_agree h hc
  typeOperator := keeps_succ fun _ (_ : 0 ≤ _) => typeOperator_agree h
  bindingName := keeps_succ fun _ (_ : 0 ≤ _) => bindingName_agree h

/-- A grammar agrees with every grammar of more levels below its own number of levels. -/
theorem Grammar.ofFuel_agreeBelow : ∀ {n m : Nat}, n ≤ m →
    (Grammar.ofFuel n).AgreeBelow (Grammar.ofFuel m) n
  | 0, _, _ => agreeBelow_zero _ _
  | _ + 1, 0, h => absurd h (by omega)
  | _ + 1, _ + 1, h => (ofFuel_agreeBelow (by omega)).rules

theorem parseFileWith_agree {g g' : Grammar} (fileName text : String)
    (h : g.AgreeBelow g' (Grammar.fuelFor text)) :
    parseFileWith g fileName text = parseFileWith g' fileName text := by
  have hv := advance_valid (start_eofAtEnd fileName text)
  have hW : Within (Grammar.fuelFor text) 6 (advance (start fileName text)).scanner := by
    have htext := (advance_text (start_eofAtEnd fileName text)).trans (start_text fileName text)
    have hsize : (advance (start fileName text)).scanner.size = text.utf8ByteSize := by
      rw [Scanner.size, htext]
    unfold Within Scanner.rest Grammar.fuelFor
    omega
  have hrun := (statementList_agree h (Nat.le_refl 6) true _ hv hW).1
  have hstep : ∀ g : Grammar, (do nextToken; statementList g true : ParserM (List Node)).run
      (start fileName text) = (statementList g true).run (advance (start fileName text)) :=
    fun _ => rfl
  unfold parseFileWith
  simp only [hstep, hrun]

/-- The levels a text's size asks for never run out: with more, the parse is the same. -/
theorem parseFileWith_ofFuel (fileName text : String) {n : Nat} (hn : Grammar.fuelFor text ≤ n) :
    parseFileWith (Grammar.ofFuel n) fileName text = parseFile fileName text :=
  (parseFileWith_agree fileName text (Grammar.ofFuel_agreeBelow hn)).symm

/-! ### Every level goes forward -/

/-- Every entry point of the grammar goes forward. -/
structure Grammar.GoesForward (g : Grammar) : Prop where
  statement : Forward g.statement
  block : Forward g.block
  expression : Forward g.expression
  assignment : Forward g.assignment
  binary : ∀ prec, Forward (g.binary prec)
  unary : Forward g.unary
  newExpression : Forward g.newExpression
  type : Forward g.type
  typeOperator : Forward g.typeOperator
  bindingName : Forward g.bindingName

theorem Grammar.GoesForward.agreeBelow {g : Grammar} (h : g.GoesForward) (B : Nat) :
    g.AgreeBelow g B where
  statement _ _ := h.statement.within
  block _ _ := h.block.within.pre fun _ hs => hs.mono (Nat.le_add_right _ _)
  expression _ _ := h.expression.within
  assignment _ _ := h.assignment.within
  binary _ prec _ := (h.binary prec).within
  unary _ _ := h.unary.within
  newExpression _ _ := h.newExpression.within.pre fun _ hs => hs.1
  type _ _ := h.type.within
  typeOperator _ _ := h.typeOperator.within
  bindingName _ _ := h.bindingName.within

theorem Parser.failNode_agree {P : Scanner → Prop} :
    Agree P (fun _ s => P s) Parser.failNode Parser.failNode :=
  (errorAtToken_agree _).bind fun _ => missingIdent_agree

/-- Every level of the grammar goes forward: its rules do where the level below goes forward. -/
theorem Grammar.ofFuel_goesForward : ∀ n, (Grammar.ofFuel n).GoesForward
  | 0 =>
    { statement := (errorAtToken_agree _).bind fun _ => Agree.pure fun _ _ => trivial
      block := Parser.failNode_agree
      expression := Parser.failNode_agree
      assignment := Parser.failNode_agree
      binary := fun _ => Parser.failNode_agree
      unary := Parser.failNode_agree
      newExpression := Parser.failNode_agree
      type := Parser.failNode_agree
      typeOperator := Parser.failNode_agree
      bindingName := Parser.failNode_agree }
  | n + 1 =>
    have h := (ofFuel_goesForward n).agreeBelow
    { statement := .of_keeps fun B => statement_agree (h B) (c := 5) (Nat.le_refl _)
      block := .of_keeps fun B => (block_agree (h B)).within (c := 6) (Nat.le_refl _)
      expression := .of_keeps fun B => expression_agree (h B) (c := 4) (Nat.le_refl _)
      assignment := .of_keeps fun B => assignment_agree (h B) (c := 3) (Nat.le_refl _)
      binary := fun prec => .of_keeps fun B => binaryBody_agree (h B) (c := 2) (Nat.le_refl _) prec
      unary := .of_keeps fun B => unaryBody_agree (h B) (c := 1) (Nat.le_refl _)
      newExpression := .of_keeps fun B => (newExpression_agree (h B)).within (c := 4) (Nat.le_refl _)
      type := .of_keeps fun B => typeNode_agree (h B) (c := 1) (Nat.le_refl _)
      typeOperator := .of_keeps fun B => typeOperator_agree (h B) (c := 0)
      bindingName := .of_keeps fun B => bindingName_agree (h B) (c := 0) }

end ParamNarrow
