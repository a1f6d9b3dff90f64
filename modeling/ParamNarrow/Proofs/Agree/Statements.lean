import ParamNarrow.Proofs.Agree.Expressions
import ParamNarrow.Syntax.Parser.Statements
/-!
# Statements agree below their fuel

Statements, declarations, imports and exports run alike on two grammars whose entry points agree
with one unit of credit less. A compound statement (`if`, `do`, `while`, `for`, `switch`, `try`)
consumes its keyword first, which pays for its nested statements; a statement asks for five units,
what an expression statement asks for, and a statement list for six, what each of its statements'
entry asks for.
-/

namespace ParamNarrow

namespace Parser

variable {g g' : Grammar} {B c : Nat}

/-! ### Variables and declarations -/

theorem variableDeclaration_agree (h : g.AgreeBelow g' B) (hc : 4 ≤ c) :
    Keeps B c (variableDeclaration g) (variableDeclaration g') := by
  unfold variableDeclaration
  refine tokenPos_agree.bind fun start => (h.bindingName c (by omega)).bind fun name => ?_
  refine lineBreakBefore_agree.bind fun b => ?_
  extract_lets -underBinder jp jp'
  suffices hjp : ∀ definite, Keeps B c (jp definite) (jp' definite) by
    exact Agree.ite (fun _ => (Agree.pure fun _ hs => hs).bind hjp) fun _ =>
      (accept_forward _).within.bind hjp
  intro definite
  unfold jp jp'
  refine (accept_forward _).within.bind fun b => ?_
  extract_lets -underBinder jp₁ jp₁'
  refine (h.type c (by omega)).optional b fun type => ?_
  unfold jp₁ jp₁'
  refine (accept_forward _).within.bind fun b => ?_
  extract_lets -underBinder jp₂
  exact (h.assignment c hc).optional b fun init => lastEnd_agree.bind fun _ =>
    Agree.pure fun _ hs => hs

theorem variableList_agree (h : g.AgreeBelow g' B) (hc : 4 ≤ c) :
    Keeps B c (variableList g) (variableList g') := by
  unfold variableList
  refine tokenPos_agree.bind fun start => token_agree.bind fun k => Agree.pre ?_ fun _ hs => hs.1
  extract_lets -underBinder keyword
  exact nextToken_forward.within.bind fun _ => (variableDeclaration_agree h hc).bind fun first =>
    (separated_agree _ (variableDeclaration_agree h hc)).bind fun rest =>
      lastEnd_agree.bind fun _ => Agree.pure fun _ hs => hs

theorem variableStatement_agree (h : g.AgreeBelow g' B) (hc : 4 ≤ c) (start : Nat)
    (mods : Modifiers) :
    Keeps B c (variableStatement g start mods) (variableStatement g' start mods) := by
  unfold variableStatement
  exact (variableList_agree h hc).bind fun list => semicolon_forward.within.bind fun _ =>
    lastEnd_agree.bind fun _ => Agree.pure fun _ hs => hs

theorem functionDeclaration_agree (h : g.AgreeBelow g' B) (start : Nat) (mods : Modifiers) :
    AgreeAt B .functionKeyword 4 (functionDeclaration g start mods)
      (functionDeclaration g' start mods) := by
  intro c
  unfold functionDeclaration
  refine (expect_agree (by decide) 4 (by omega)).bind fun _ => ?_
  refine (accept_forward _).within.bind fun asterisk => isIdentifier_agree.bind fun b => ?_
  extract_lets -underBinder jp jp'
  have hjp : ∀ name, Keeps B (c + 4) (jp name) (jp' name) := fun _ =>
    functionLikeRest_agree h (by omega) _ _ _ _ _ _
  refine Agree.ite (fun _ => (identifier_forward.within.map some).bind hjp) fun _ => ?_
  refine Agree.ite (fun _ => ?_) fun _ => (identifier_forward.within.map some).bind hjp
  simp only [pure_bind]
  exact hjp none

theorem typeAlias_agree (h : g.AgreeBelow g' B) (start : Nat) (mods : Modifiers) :
    AgreeAt B .typeKeyword 2 (typeAlias g start mods) (typeAlias g' start mods) := by
  intro c
  unfold typeAlias
  refine (expect_agree (by decide) 2 (by omega)).bind fun _ => identifier_forward.within.bind
    fun name => (typeParameters_agree h).bind fun typeParams => ?_
  refine (expect_forward _).within.bind fun _ => (h.type _ (by omega)).bind fun type => ?_
  exact semicolon_forward.within.bind fun _ => lastEnd_agree.bind fun _ =>
    Agree.pure fun _ hs => hs

theorem interfaceDeclaration_agree (h : g.AgreeBelow g' B) (start : Nat) (mods : Modifiers) :
    AgreeAt B .interfaceKeyword 4 (interfaceDeclaration g start mods)
      (interfaceDeclaration g' start mods) := by
  intro c
  unfold interfaceDeclaration
  refine (expect_agree (by decide) 4 (by omega)).bind fun _ => identifier_forward.within.bind
    fun name => (typeParameters_agree h).bind fun typeParams => ?_
  refine (accept_forward _).within.bind fun b => ?_
  extract_lets -underBinder jp jp'
  suffices hjp : ∀ heritage, Keeps B (c + 4) (jp heritage) (jp' heritage) by
    refine Agree.ite (fun _ => ?_) fun _ => (Agree.pure fun _ hs => hs).bind hjp
    refine (typeReference_agree h).bind fun first => ?_
    exact (separated_agree _ (typeReference_agree h)).bind fun rest =>
      (Agree.pure fun _ hs => hs).bind hjp
  intro heritage
  unfold jp jp'
  refine (isToken_agree _).bind fun _ => Agree.pre ?_ fun _ hs => hs.1
  extract_lets -underBinder jp₁ jp₁'
  have hjp₁ : ∀ u, Keeps B (c + 4) (jp₁ u) (jp₁' u) := fun _ =>
    ((typeMembers_agree h).within (by omega)).bind fun members => lastEnd_agree.bind fun _ =>
      Agree.pure fun _ hs => hs
  exact Agree.ite (fun _ => (reportUnsupported_agree _).bind hjp₁) fun _ => hjp₁ ()

theorem declarationKinds_agree (h : g.AgreeBelow g' B) (hc : 4 ≤ c) (start : Nat)
    (mods : Modifiers) :
    Keeps B c (declarationKinds g start mods) (declarationKinds g' start mods) := by
  unfold declarationKinds
  refine token_agree.bind fun k => Agree.pre ?_ fun _ hs => hs.1
  split
  case h_1 => exact ((functionDeclaration_agree h _ _).within hc).map some
  case h_2 =>
    exact (peekIs_agree _).bind fun _ => Agree.ite (fun _ =>
      (unsupportedDeclaration_forward _).within.map some) fun _ =>
        (variableStatement_agree h hc _ _).map some
  case h_3 | h_4 => exact (variableStatement_agree h hc _ _).map some
  case h_5 => exact ((typeAlias_agree h _ _).within (by omega)).map some
  case h_6 => exact ((interfaceDeclaration_agree h _ _).within hc).map some
  case h_13 =>
    extract_lets -underBinder jp
    have hjp : ∀ u, Keeps B c (jp u) (jp u) := fun _ =>
      (errorAtToken_agree _).bind fun _ => Agree.pure fun _ hs => hs
    refine Agree.ite (fun _ => ?_) fun _ => hjp ()
    refine (startsAsyncFunction_agree).bind fun b => Agree.ite (fun _ => ?_) fun _ => hjp ()
    exact nextToken_forward.within.bind fun _ => ((functionDeclaration_agree h _ _).within hc).bind
      fun d => Agree.pure fun _ hs => hs
  all_goals exact (unsupportedDeclaration_forward _).within.map some

theorem declarationAfterModifiers_agree (h : g.AgreeBelow g' B) (hc : 4 ≤ c) (start : Nat)
    (mods : Modifiers) :
    Keeps B c (declarationAfterModifiers g start mods) (declarationAfterModifiers g' start mods) := by
  unfold declarationAfterModifiers
  refine (isToken_agree _).bind fun _ => Agree.pre ?_ fun _ hs => hs.1
  refine Agree.ite (fun _ => ?_) fun _ => declarationKinds_agree h hc _ _
  refine (lookAhead_same _).bind fun b => Agree.ite (fun _ => ?_) fun _ => ?_
  · exact (unsupportedDeclaration_forward _).within.bind fun d => Agree.pure fun _ hs => hs
  · exact nextToken_forward.within.bind fun _ => declarationKinds_agree h hc _ _

/-! ### Imports and exports -/

theorem moduleSpecifier_forward : Forward moduleSpecifier := by
  unfold moduleSpecifier
  exact (isToken_agree _).bind fun _ => Agree.ite (fun _ => literal_forward.pre fun _ _ => trivial)
    fun _ => (expect_forward _).pre (fun _ _ => trivial) |>.bind fun _ => missingIdent_agree

theorem importAttributes_forward : Forward importAttributes := by
  unfold importAttributes
  exact (isToken_agree _).bind fun _ => (isToken_agree _).bind fun _ => tokenValue_agree.bind fun _ =>
    lineBreakBefore_agree.bind fun _ => Agree.ite (fun _ => (reportUnsupported_agree _).post
      fun _ _ _ => trivial) fun _ => Agree.pure fun _ _ => trivial

theorem specifier_forward (isImport : Bool) : Forward (specifier isImport) := by
  unfold specifier
  refine tokenPos_agree.bind fun start => (isToken_agree _).bind fun _ => Agree.pre ?_
    fun _ _ => trivial
  extract_lets -underBinder jp
  suffices hjp : ∀ typeOnly, Forward (jp typeOnly) by
    exact Agree.ite (fun _ => (lookAhead_same _).bind hjp) fun _ =>
      (Agree.pure fun _ _ => trivial).bind hjp
  intro typeOnly
  unfold jp
  extract_lets -underBinder jp₁
  suffices hjp₁ : ∀ u, Forward (jp₁ u) by
    exact Agree.ite (fun _ => nextToken_forward.bind hjp₁) fun _ => hjp₁ ()
  intro u
  unfold jp₁
  refine identifierName_forward.bind fun first => (accept_forward _).bind fun b => ?_
  extract_lets -underBinder jp₂
  have hjp₂ : ∀ x, Forward (jp₂ x) := by
    rintro ⟨property, name⟩
    exact lastEnd_agree.bind fun _ => Agree.pure fun _ _ => trivial
  exact Agree.ite (fun _ => identifierName_forward.bind fun name =>
    (Agree.pure fun _ _ => trivial).bind hjp₂) fun _ => (Agree.pure fun _ _ => trivial).bind hjp₂

theorem namedBindings_agree (isImport : Bool) :
    Keeps B c (namedBindings isImport) (namedBindings isImport) := by
  unfold namedBindings
  refine tokenPos_agree.bind fun start => (expect_forward _).within.bind fun _ => ?_
  refine (delimited_agree _ (specifier_forward isImport).within).bind fun x =>
    (expect_forward _).within.bind fun _ => ?_
  exact lastEnd_agree.bind fun _ => Agree.pure fun _ hs => hs

theorem exportDeclaration_agree (start : Nat) (typeOnly : Bool) :
    Keeps B c (exportDeclaration start typeOnly) (exportDeclaration start typeOnly) := by
  unfold exportDeclaration
  refine (isToken_agree _).bind fun _ => Agree.pre ?_ fun _ hs => hs.1
  extract_lets -underBinder jp
  suffices hjp : ∀ clause, Keeps B c (jp clause) (jp clause) by
    refine Agree.ite (fun _ => ?_) fun _ => ((namedBindings_agree _).map some).bind hjp
    refine tokenPos_agree.bind fun clauseStart => nextToken_forward.within.bind fun _ =>
      (accept_forward _).within.bind fun b => Agree.ite (fun _ => ?_) fun _ =>
        (Agree.pure fun _ hs => hs).bind hjp
    exact identifierName_forward.within.bind fun name => lastEnd_agree.bind fun _ =>
      (Agree.pure fun _ hs => hs).bind hjp
  intro clause
  unfold jp
  extract_lets -underBinder needsFrom
  refine (isToken_agree _).bind fun _ => Agree.pre ?_ fun _ hs => hs.1
  extract_lets -underBinder jp₁
  have hjp₁ : ∀ spec, Keeps B c (jp₁ spec) (jp₁ spec) := fun _ =>
    semicolon_forward.within.bind fun _ => lastEnd_agree.bind fun _ => Agree.pure fun _ hs => hs
  exact Agree.ite (fun _ => (expect_forward _).within.bind fun _ =>
    (moduleSpecifier_forward.within.map some).bind hjp₁) fun _ => (Agree.pure fun _ hs => hs).bind hjp₁

theorem importDeclaration_agree : Keeps B c importDeclaration importDeclaration := by
  unfold importDeclaration
  refine tokenPos_agree.bind fun start => (expect_forward _).within.bind fun _ => ?_
  refine (isToken_agree _).bind fun _ => Agree.pre ?_ fun _ hs => hs.1
  refine Agree.ite (fun _ => ?_) fun _ => ?_
  · exact moduleSpecifier_forward.within.bind fun spec => importAttributes_forward.within.bind
      fun _ => semicolon_forward.within.bind fun _ => lastEnd_agree.bind fun _ =>
        Agree.pure fun _ hs => hs
  refine tokenPos_agree.bind fun clauseStart => (isToken_agree _).bind fun _ => Agree.pre ?_
    fun _ hs => hs.1
  extract_lets -underBinder jp
  suffices hjp : ∀ typeOnly, Keeps B c (jp typeOnly) (jp typeOnly) by
    exact Agree.ite (fun _ => (lookAhead_same _).bind hjp) fun _ =>
      (Agree.pure fun _ hs => hs).bind hjp
  intro typeOnly
  unfold jp
  extract_lets -underBinder jp₁
  suffices hjp₁ : ∀ u, Keeps B c (jp₁ u) (jp₁ u) by
    exact Agree.ite (fun _ => nextToken_forward.within.bind hjp₁) fun _ => hjp₁ ()
  intro u
  unfold jp₁
  refine isIdentifier_agree.bind fun _ => ?_
  extract_lets -underBinder jp₂
  suffices hjp₂ : ∀ name, Keeps B c (jp₂ name) (jp₂ name) by
    exact Agree.ite (fun _ => (identifier_forward.within.map some).bind hjp₂) fun _ =>
      (Agree.pure fun _ hs => hs).bind hjp₂
  intro name
  unfold jp₂
  extract_lets -underBinder jp₃
  suffices hjp₃ : ∀ bindingsFollow, Keeps B c (jp₃ bindingsFollow) (jp₃ bindingsFollow) by
    exact Agree.ite (fun _ => (Agree.pure fun _ hs => hs).bind hjp₃) fun _ =>
      (accept_forward _).within.bind hjp₃
  intro bindingsFollow
  unfold jp₃
  extract_lets -underBinder jp₄
  suffices hjp₄ : ∀ bindings, Keeps B c (jp₄ bindings) (jp₄ bindings) by
    refine Agree.ite (fun _ => ?_) fun _ => (Agree.pure fun _ hs => hs).bind hjp₄
    refine (isToken_agree _).bind fun _ => Agree.pre ?_ fun _ hs => hs.1
    refine Agree.ite (fun _ => ?_) fun _ => ((namedBindings_agree _).map some).bind hjp₄
    exact tokenPos_agree.bind fun nsStart => nextToken_forward.within.bind fun _ =>
      (expect_forward _).within.bind fun _ => identifier_forward.within.bind fun binding =>
        lastEnd_agree.bind fun _ => (Agree.pure fun _ hs => hs).bind hjp₄
  intro bindings
  unfold jp₄
  exact lastEnd_agree.bind fun _ => (expect_forward _).within.bind fun _ =>
    moduleSpecifier_forward.within.bind fun spec => importAttributes_forward.within.bind fun _ =>
      semicolon_forward.within.bind fun _ => lastEnd_agree.bind fun _ => Agree.pure fun _ hs => hs

theorem exportStatement_agree (h : g.AgreeBelow g' B) (hc : 4 ≤ c) :
    Keeps B c (exportStatement g) (exportStatement g') := by
  unfold exportStatement
  refine tokenPos_agree.bind fun start => (expect_forward _).within.bind fun _ => ?_
  extract_lets -underBinder exported
  refine token_agree.bind fun k => Agree.pre ?_ fun _ hs => hs.1
  split
  case h_1 =>
    refine nextToken_forward.within.bind fun _ => ?_
    extract_lets -underBinder mods
    refine (isToken_agree _).bind fun _ => (isToken_agree _).bind fun _ => Agree.pre ?_
      fun _ hs => hs.1.1
    refine Agree.ite (fun _ => declarationAfterModifiers_agree h hc _ _) fun _ => ?_
    refine (isToken_agree _).bind fun _ => Agree.pre ?_ fun _ hs => hs.1
    extract_lets -underBinder jp jp'
    have hjp : ∀ u, Keeps B c (jp u) (jp' u) := fun _ =>
      (isToken_agree _).bind fun _ => (isToken_agree _).bind fun _ => Agree.pre (Agree.ite
        (fun _ => (unsupportedDeclaration_forward _).within.bind fun d => Agree.pure fun _ hs => hs)
        fun _ => (h.assignment c hc).bind fun e => semicolon_forward.within.bind fun _ =>
          lastEnd_agree.bind fun _ => Agree.pure fun _ hs => hs) fun _ hs => hs.1.1
    refine Agree.ite (fun _ => ?_) fun _ => hjp ()
    exact (startsAsyncFunction_agree).bind fun _ => Agree.ite (fun _ =>
      declarationAfterModifiers_agree h hc _ _) fun _ => hjp ()
  case h_2 | h_3 => exact (exportDeclaration_agree _ _).map some
  case h_4 =>
    refine (lookAhead_same _).bind fun b => Agree.ite (fun _ => ?_) fun _ =>
      declarationAfterModifiers_agree h hc _ _
    exact nextToken_forward.within.bind fun _ => (exportDeclaration_agree _ _).bind fun d =>
      Agree.pure fun _ hs => hs
  case h_5 | h_6 | h_7 => exact (unsupportedDeclaration_forward _).within.map some
  case h_8 => exact declarationAfterModifiers_agree h hc _ _

/-! ### Statements -/

theorem statementItems_agree (h : g.AgreeBelow g' B) (hc : 6 ≤ c) (topLevel : Bool) :
    ∀ n acc, Keeps B c (statementItems g topLevel n acc) (statementItems g' topLevel n acc)
  | 0, _ => Agree.pure fun _ hs => hs
  | n + 1, acc => by
    have ih : ∀ acc, Keeps B c (statementItems g topLevel n acc)
        (statementItems g' topLevel n acc) := statementItems_agree h hc topLevel n
    unfold statementItems
    refine (isToken_agree _).bind fun _ => Agree.pre ?_ fun _ hs => hs.1
    refine Agree.ite (fun _ => Agree.pure fun _ hs => hs) fun _ => ?_
    refine (isToken_agree _).bind fun _ => Agree.pre ?_ fun _ hs => hs.1
    refine Agree.ite (fun _ => ?_) fun _ => ?_
    · refine Agree.ite (fun _ => Agree.pure fun _ hs => hs) fun _ => ?_
      exact (errorAtToken_agree _).bind fun _ => nextToken_forward.within.bind fun _ => ih acc
    refine tokenPos_agree.bind fun before => (h.statement c hc).bind fun s => ?_
    extract_lets -underBinder acc'
    refine tokenPos_agree.bind fun _ => (isToken_agree _).bind fun _ => (isToken_agree _).bind
      fun _ => Agree.pre ?_ fun _ hs => hs.1.1
    extract_lets -underBinder jp jp'
    have hjp : ∀ u, Keeps B c (jp u) (jp' u) := fun _ => ih acc'
    exact Agree.ite (fun _ => nextToken_forward.within.bind hjp) fun _ => hjp ()

theorem statementList_agree (h : g.AgreeBelow g' B) (hc : 6 ≤ c) (topLevel : Bool) :
    Keeps B c (statementList g topLevel) (statementList g' topLevel) := by
  unfold statementList
  exact budget_agree.bind fun n => statementItems_agree h hc topLevel n []

theorem block_agree (h : g.AgreeBelow g' B) :
    AgreeAt B .openBraceToken 6 (block g) (block g') := by
  intro c
  unfold block
  refine tokenPos_agree.bind fun start => (expect_agree (by decide) 6 (by omega)).bind fun _ => ?_
  refine (allowIn_agree (statementList_agree h (by omega) false)).bind fun statements => ?_
  refine (expect_forward _).within.bind fun _ => lastEnd_agree.bind fun stop => ?_
  exact (spansLines_agree _ _).bind fun _ => Agree.pure fun _ hs => hs

theorem expressionStatement_agree (h : g.AgreeBelow g' B) (hc : 5 ≤ c) :
    Keeps B c (expressionStatement g) (expressionStatement g') := by
  unfold expressionStatement
  exact tokenPos_agree.bind fun start => (h.expression c hc).bind fun e =>
    semicolon_forward.within.bind fun _ => lastEnd_agree.bind fun _ => Agree.pure fun _ hs => hs

theorem ifStatement_at (h : g.AgreeBelow g' B) :
    Agree (fun s => Within B c s ∧ s.token = .ifKeyword) (fun _ => Within B c)
      (ifStatement g) (ifStatement g') := by
  unfold ifStatement
  refine tokenPos_agree.bind fun start => expect_bind (by decide) fun _ => ?_
  refine (expect_forward _).within.bind fun _ => (h.expression _ (by omega)).bind fun condition => ?_
  refine (expect_forward _).within.bind fun _ => (h.statement _ (by omega)).bind fun thenBranch => ?_
  refine (accept_forward _).within.bind fun b => ?_
  extract_lets -underBinder jp
  have hjp : ∀ elseBranch, Keeps B (c + 8) (jp elseBranch) (jp elseBranch) := fun _ =>
    lastEnd_agree.bind fun _ => Agree.pure fun _ hs => hs
  exact Agree.ite (fun _ => (h.statement _ (by omega)).bind hjp) fun _ =>
    (Agree.pure fun _ hs => hs).bind hjp

theorem doStatement_at (h : g.AgreeBelow g' B) :
    Agree (fun s => Within B c s ∧ s.token = .doKeyword) (fun _ => Within B c)
      (doStatement g) (doStatement g') := by
  unfold doStatement
  refine tokenPos_agree.bind fun start => expect_bind (by decide) fun _ => ?_
  refine (h.statement _ (by omega)).bind fun body => (expect_forward _).within.bind fun _ => ?_
  refine (expect_forward _).within.bind fun _ => (h.expression _ (by omega)).bind fun condition => ?_
  exact (expect_forward _).within.bind fun _ => (accept_forward _).within.bind fun _ =>
    lastEnd_agree.bind fun _ => Agree.pure fun _ hs => hs

theorem whileStatement_at (h : g.AgreeBelow g' B) :
    Agree (fun s => Within B c s ∧ s.token = .whileKeyword) (fun _ => Within B c)
      (whileStatement g) (whileStatement g') := by
  unfold whileStatement
  refine tokenPos_agree.bind fun start => expect_bind (by decide) fun _ => ?_
  refine (expect_forward _).within.bind fun _ => (h.expression _ (by omega)).bind fun condition => ?_
  exact (expect_forward _).within.bind fun _ => (h.statement _ (by omega)).bind fun body =>
    lastEnd_agree.bind fun _ => Agree.pure fun _ hs => hs

theorem forStatement_at (h : g.AgreeBelow g' B) :
    Agree (fun s => Within B c s ∧ s.token = .forKeyword) (fun _ => Within B c)
      (forStatement g) (forStatement g') := by
  unfold forStatement
  refine tokenPos_agree.bind fun start => expect_bind (by decide) fun _ => ?_
  refine (accept_forward _).within.bind fun await => (expect_forward _).within.bind fun _ => ?_
  refine (isToken_agree _).bind fun _ => (isToken_agree _).bind fun _ => (isToken_agree _).bind
    fun _ => (lookAhead_same _).bind fun _ => Agree.pre ?_ fun _ hs => hs.1.1.1
  extract_lets -underBinder declares
  refine (isToken_agree _).bind fun _ => Agree.pre ?_ fun _ hs => hs.1
  extract_lets -underBinder jp jp'
  suffices hjp : ∀ init, Keeps B (c + 8) (jp init) (jp' init) by
    refine Agree.ite (fun _ => (Agree.pure fun _ hs => hs).bind hjp) fun _ =>
      Agree.ite (fun _ => ?_) fun _ => ?_
    · exact ((disallowIn_agree (variableList_agree h (by omega))).map some).bind hjp
    · exact ((disallowIn_agree (h.expression _ (by omega))).map some).bind hjp
  intro init
  unfold jp jp'
  refine (isToken_agree _).bind fun _ => Agree.pre ?_ fun _ hs => hs.1
  extract_lets -underBinder forOf
  refine (isToken_agree _).bind fun _ => Agree.pre ?_ fun _ hs => hs.1
  extract_lets -underBinder forIn
  refine Agree.ite (fun _ => ?_) fun _ => ?_
  · refine (expect_forward _).within.bind fun _ => ?_
    extract_lets -underBinder jp₁ jp₁'
    have hjp₁ : ∀ e, Keeps B (c + 8) (jp₁ e) (jp₁' e) := fun _ =>
      (expect_forward _).within.bind fun _ => (h.statement _ (by omega)).bind fun body =>
        lastEnd_agree.bind fun _ => Agree.pure fun _ hs => hs
    exact Agree.ite (fun _ => (allowIn_agree (h.assignment _ (by omega))).bind hjp₁) fun _ =>
      (allowIn_agree (h.expression _ (by omega))).bind hjp₁
  refine (expect_forward _).within.bind fun _ => (isToken_agree _).bind fun _ => Agree.pre ?_
    fun _ hs => hs.1
  extract_lets -underBinder jp₁ jp₁'
  suffices hjp₁ : ∀ condition, Keeps B (c + 8) (jp₁ condition) (jp₁' condition) by
    exact Agree.ite (fun _ => (Agree.pure fun _ hs => hs).bind hjp₁) fun _ =>
      ((h.expression _ (by omega)).map some).bind hjp₁
  intro condition
  unfold jp₁ jp₁'
  refine (expect_forward _).within.bind fun _ => (isToken_agree _).bind fun _ => Agree.pre ?_
    fun _ hs => hs.1
  extract_lets -underBinder jp₂ jp₂'
  have hjp₂ : ∀ update, Keeps B (c + 8) (jp₂ update) (jp₂' update) := fun _ =>
    (expect_forward _).within.bind fun _ => (h.statement _ (by omega)).bind fun body =>
      lastEnd_agree.bind fun _ => Agree.pure fun _ hs => hs
  exact Agree.ite (fun _ => (Agree.pure fun _ hs => hs).bind hjp₂) fun _ =>
    ((h.expression _ (by omega)).map some).bind hjp₂

theorem jumpStatement_forward : Forward jumpStatement := by
  unfold jumpStatement
  refine tokenPos_agree.bind fun start => (isToken_agree _).bind fun isBreak =>
    Agree.pre ?_ fun _ _ => trivial
  refine nextToken_forward.bind fun _ => canEndStatement_agree.bind fun _ =>
    isIdentifier_agree.bind fun _ => ?_
  extract_lets -underBinder jp
  have hjp : ∀ label, Forward (jp label) := fun _ =>
    semicolon_forward.bind fun _ => lastEnd_agree.bind fun _ => Agree.pure fun _ _ => trivial
  exact Agree.ite (fun _ => (identifier_forward.map some).bind hjp) fun _ =>
    (Agree.pure fun _ _ => trivial).bind hjp

theorem returnStatement_agree (h : g.AgreeBelow g' B) (hc : 5 ≤ c) :
    Keeps B c (returnStatement g) (returnStatement g') := by
  unfold returnStatement
  refine tokenPos_agree.bind fun start => (expect_forward _).within.bind fun _ =>
    canEndStatement_agree.bind fun _ => ?_
  extract_lets -underBinder jp
  have hjp : ∀ e, Keeps B c (jp e) (jp e) := fun _ =>
    semicolon_forward.within.bind fun _ => lastEnd_agree.bind fun _ => Agree.pure fun _ hs => hs
  exact Agree.ite (fun _ => (Agree.pure fun _ hs => hs).bind hjp) fun _ =>
    ((h.expression c hc).map some).bind hjp

theorem throwStatement_agree (h : g.AgreeBelow g' B) (hc : 5 ≤ c) :
    Keeps B c (throwStatement g) (throwStatement g') := by
  unfold throwStatement
  refine tokenPos_agree.bind fun start => (expect_forward _).within.bind fun _ =>
    lineBreakBefore_agree.bind fun _ => ?_
  extract_lets -underBinder jp
  have hjp : ∀ e, Keeps B c (jp e) (jp e) := fun _ =>
    semicolon_forward.within.bind fun _ => lastEnd_agree.bind fun _ => Agree.pure fun _ hs => hs
  exact Agree.ite (fun _ => (errorAtToken_agree _).bind fun _ =>
    (Agree.pure fun _ hs => hs).bind hjp) fun _ => ((h.expression c hc).map some).bind hjp

theorem clauseStatements_agree (h : g.AgreeBelow g' B) (hc : 6 ≤ c) :
    ∀ n acc, Keeps B c (clauseStatements g n acc) (clauseStatements g' n acc)
  | 0, _ => Agree.pure fun _ hs => hs
  | n + 1, acc => by
    unfold clauseStatements
    refine token_agree.bind fun k => Agree.pre ?_ fun _ hs => hs.1
    refine Agree.ite (fun _ => Agree.pure fun _ hs => hs) fun _ => ?_
    refine tokenPos_agree.bind fun before => (h.statement c hc).bind fun s => ?_
    extract_lets -underBinder acc'
    refine tokenPos_agree.bind fun _ => ?_
    extract_lets -underBinder jp jp'
    have hjp : ∀ u, Keeps B c (jp u) (jp' u) := fun _ => clauseStatements_agree h hc n acc'
    exact Agree.ite (fun _ => nextToken_forward.within.bind hjp) fun _ => hjp ()

theorem switchClauses_agree (h : g.AgreeBelow g' B) (hc : 6 ≤ c) :
    ∀ n acc, Keeps B c (switchClauses g n acc) (switchClauses g' n acc)
  | 0, _ => Agree.pure fun _ hs => hs
  | n + 1, acc => by
    have ih : ∀ acc, Keeps B c (switchClauses g n acc) (switchClauses g' n acc) :=
      switchClauses_agree h hc n
    unfold switchClauses
    refine (isToken_agree _).bind fun _ => (isToken_agree _).bind fun _ => Agree.pre ?_
      fun _ hs => hs.1.1
    refine Agree.ite (fun _ => Agree.pure fun _ hs => hs) fun _ => ?_
    refine tokenPos_agree.bind fun start => (accept_forward _).within.bind fun _ =>
      Agree.ite (fun _ => ?_) fun _ => ?_
    · refine (h.expression c (by omega)).bind fun e => (expect_forward _).within.bind fun _ => ?_
      exact budget_agree.bind fun m => (clauseStatements_agree h hc m []).bind fun statements =>
        lastEnd_agree.bind fun _ => ih _
    refine (accept_forward _).within.bind fun _ => Agree.ite (fun _ => ?_) fun _ => ?_
    · refine (expect_forward _).within.bind fun _ => budget_agree.bind fun m => ?_
      exact (clauseStatements_agree h hc m []).bind fun statements => lastEnd_agree.bind fun _ =>
        ih _
    · exact (expect_forward _).within.bind fun _ => nextToken_forward.within.bind fun _ => ih acc

theorem switchStatement_at (h : g.AgreeBelow g' B) :
    Agree (fun s => Within B c s ∧ s.token = .switchKeyword) (fun _ => Within B c)
      (switchStatement g) (switchStatement g') := by
  unfold switchStatement
  refine tokenPos_agree.bind fun start => expect_bind (by decide) fun _ => ?_
  refine (expect_forward _).within.bind fun _ => (h.expression _ (by omega)).bind fun e => ?_
  refine (expect_forward _).within.bind fun _ => (expect_forward _).within.bind fun _ => ?_
  refine budget_agree.bind fun n => (switchClauses_agree h (by omega) n []).bind fun clauses => ?_
  exact (expect_forward _).within.bind fun _ => lastEnd_agree.bind fun _ =>
    Agree.pure fun _ hs => hs

theorem tryStatement_at (h : g.AgreeBelow g' B) :
    Agree (fun s => Within B c s ∧ s.token = .tryKeyword) (fun _ => Within B c)
      (tryStatement g) (tryStatement g') := by
  unfold tryStatement
  refine tokenPos_agree.bind fun start => (expect_consumes (by decide)).bind fun _ => ?_
  refine (h.block_after (c := c + 2) (by omega)).bind fun tryBlock => ?_
  refine (isToken_agree _).bind fun b => ?_
  extract_lets -underBinder jp jp'
  suffices hjp : ∀ catchClause, Agree (Within B (c + 2)) (fun _ => Within B c) (jp catchClause)
      (jp' catchClause) by
    refine Agree.ite (fun hb => ?_) fun _ => (Agree.pure fun _ hs => hs.1).bind hjp
    refine tokenPos_agree.bind fun catchStart => (nextToken_consumes.pre fun s hs =>
      ⟨hs.1, ?_⟩).bind fun _ => (accept_forward _).within.bind fun b => ?_
    · rw [show s.token = .catchKeyword by simpa [hb] using hs.2]
      decide
    extract_lets -underBinder jp₁ jp₁'
    have hjp₁ : ∀ d, Agree (Within B (c + 2 + 8)) (fun _ => Within B c) (jp₁ d) (jp₁' d) :=
      fun _ => ((h.block_after (c := c + 4) (by omega)).pre fun _ hs => hs.mono (by omega)).bind
        fun body => lastEnd_agree.bind fun _ => ((Agree.pure fun _ hs => hs).bind hjp).pre
          fun _ hs => hs.mono (by omega)
    exact Agree.ite (fun _ => (variableDeclaration_agree h (by omega)).bind fun d =>
      (expect_forward _).within.bind fun _ => (Agree.pure fun _ hs => hs).bind hjp₁) fun _ =>
        (Agree.pure fun _ hs => hs).bind hjp₁
  intro catchClause
  unfold jp jp'
  refine (accept_agree (by decide)).bind fun b => ?_
  extract_lets -underBinder jp₁
  have hjp₁ : ∀ finallyBlock, Agree (Within B (c + 2)) (fun _ => Within B c) (jp₁ finallyBlock)
      (jp₁ finallyBlock) := by
    intro finallyBlock
    unfold jp₁
    extract_lets -underBinder jp₂
    have hjp₂ : ∀ u, Agree (Within B (c + 2)) (fun _ => Within B c) (jp₂ u) (jp₂ u) := fun _ =>
      lastEnd_agree.bind fun _ => Agree.pure fun _ hs => hs.mono (by omega)
    exact Agree.ite (fun _ => (expect_forward _).within.bind fun _ => hjp₂ ()) fun _ => hjp₂ ()
  refine Agree.ite (fun hb => ?_) fun _ => (Agree.pure fun _ hs => hs.1).bind hjp₁
  exact (((h.block_after (c := c + 4) (by omega)).pre fun _ hs => (hs.2 hb).mono (by omega)).map
    some).bind fun fb => (hjp₁ fb).pre fun _ hs => hs.mono (by omega)

theorem statementBody_agree (h : g.AgreeBelow g' B) (hc : 5 ≤ c) :
    Keeps B c (statementBody g) (statementBody g') := by
  unfold statementBody
  refine tokenPos_agree.bind fun start => token_agree.bind fun k => ?_
  split
  case h_1 => exact (h.block_at (by omega)).map some
  case h_6 => exact (ifStatement_at h).map some
  case h_7 => exact (doStatement_at h).map some
  case h_8 => exact (whileStatement_at h).map some
  case h_9 => exact (forStatement_at h).map some
  case h_14 => exact (switchStatement_at h).map some
  case h_15 => exact (tryStatement_at h).map some
  case h_21 =>
    refine Agree.pre ?_ fun _ hs => hs.1
    extract_lets -underBinder jp jp'
    suffices hjp : ∀ u, Keeps B c (jp u) (jp' u) from Agree.guardedAlt (lookAhead_same _)
      ((variableStatement_agree h (by omega) _ _).bind fun d => Agree.pure fun _ hs => hs) (hjp ())
    intro u
    unfold jp jp'
    extract_lets -underBinder jp₁ jp₁'
    suffices hjp₁ : ∀ u, Keeps B c (jp₁ u) (jp₁' u) from Agree.guardedAlt
      startsAsyncFunction_agree (declarationAfterModifiers_agree h (by omega) _ _) (hjp₁ ())
    intro u
    unfold jp₁ jp₁'
    extract_lets -underBinder jp₂ jp₂'
    suffices hjp₂ : ∀ u, Keeps B c (jp₂ u) (jp₂' u) from
      Agree.ite (fun _ => (lookAhead_same _).bind fun _ => Agree.ite (fun _ =>
        importDeclaration_agree.bind fun d => Agree.pure fun _ hs => hs) fun _ => hjp₂ ())
        fun _ => hjp₂ ()
    intro u
    unfold jp₂ jp₂'
    extract_lets -underBinder jp₃ jp₃'
    suffices hjp₃ : ∀ u, Keeps B c (jp₃ u) (jp₃' u) from Agree.guardedAlt (lookAhead_same _)
      (declarationAfterModifiers_agree h (by omega) _ _) (hjp₃ ())
    intro u
    unfold jp₃ jp₃'
    extract_lets -underBinder jp₄ jp₄'
    suffices hjp₄ : ∀ u, Keeps B c (jp₄ u) (jp₄' u) from Agree.guardedAlt (lookAhead_same _)
      (declarationAfterModifiers_agree h (by omega) _ _) (hjp₄ ())
    intro u
    unfold jp₄ jp₄'
    extract_lets -underBinder jp₅ jp₅'
    suffices hjp₅ : ∀ u, Keeps B c (jp₅ u) (jp₅' u) from Agree.guardedAlt (peekIs_agree _)
      ((unsupportedDeclaration_forward _).within.bind fun d => Agree.pure fun _ hs => hs) (hjp₅ ())
    intro u
    unfold jp₅ jp₅'
    extract_lets -underBinder jp₆ jp₆'
    suffices hjp₆ : ∀ u, Keeps B c (jp₆ u) (jp₆' u) from Agree.guardedAlt (lookAhead_same _)
      ((unsupportedDeclaration_forward _).within.bind fun d => Agree.pure fun _ hs => hs) (hjp₆ ())
    intro u
    unfold jp₆ jp₆'
    refine isIdentifier_agree.bind fun _ => ?_
    extract_lets -underBinder jp₇ jp₇'
    exact Agree.guardedAlt (c := _ = true) (peekIs_agree _)
      ((unsupportedDeclaration_forward _).within.bind fun d => Agree.pure fun _ hs => hs)
      ((expressionStatement_agree h hc).map some)
  all_goals refine Agree.pre ?_ fun _ hs => hs.1
  case h_2 =>
    exact nextToken_forward.within.bind fun _ => lastEnd_agree.bind fun _ =>
      Agree.pure fun _ hs => hs
  case h_3 | h_4 => exact declarationAfterModifiers_agree h (by omega) _ _
  case h_5 => exact ((functionDeclaration_agree h _ _).within (by omega)).map some
  case h_10 | h_11 => exact jumpStatement_forward.within.map some
  case h_12 => exact (returnStatement_agree h hc).map some
  case h_13 => exact (throwStatement_agree h hc).map some
  case h_16 =>
    exact nextToken_forward.within.bind fun _ => semicolon_forward.within.bind fun _ =>
      lastEnd_agree.bind fun _ => Agree.pure fun _ hs => hs
  case h_17 => exact exportStatement_agree h (by omega)
  all_goals exact (unsupportedDeclaration_forward _).within.map some

theorem skipAsEmpty_forward : Forward skipAsEmpty := by
  unfold skipAsEmpty
  exact tokenPos_agree.bind fun pos => nextToken_forward.bind fun _ => lastEnd_agree.bind fun _ =>
    Agree.pure fun _ _ => trivial

theorem statement_agree (h : g.AgreeBelow g' B) (hc : 5 ≤ c) :
    Keeps B c (statement g) (statement g') :=
  guarded_agree skipAsEmpty_forward.within (statementBody_agree h hc)

end Parser

end ParamNarrow
