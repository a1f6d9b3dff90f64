import ParamNarrow.Proofs.Agree.Types
import ParamNarrow.Syntax.Parser.Expressions
/-!
# Expressions agree below their fuel

The expression grammar runs alike on two grammars whose entry points agree with one unit of
credit less. A primary expression, its member accesses and calls, a binary operator's right
operand and a comma's next operand are all read after a consumed token, so these steps ask for
no credit; an assignment asks for what its binary expression asks for, and a function's tail for
what its parameters ask for. An arrow function's head has consumed its arrow when it is read, and
that pays for the body.
-/

namespace ParamNarrow

namespace Parser

variable {g g' : Grammar} {B c : Nat}

/-! ### Functions -/

theorem startsExpression_agree {P : Scanner → Prop} :
    Agree P (fun _ s => P s) startsExpression startsExpression := by
  unfold startsExpression
  exact isIdentifier_agree.bind fun _ => token_agree.bind fun _ => Agree.pure fun _ hs => hs.1

theorem functionLikeRest_agree (h : g.AgreeBelow g' B) (hc : 4 ≤ c) (kind : FunctionKind)
    (start : Nat) (mods : Modifiers) (asterisk : Bool) (name : Option Node) (bodyOptional : Bool) :
    Keeps B c (functionLikeRest g kind start mods asterisk name bodyOptional)
      (functionLikeRest g' kind start mods asterisk name bodyOptional) := by
  unfold functionLikeRest
  refine withContext_agree _ ?_
  refine (typeParameters_agree h).bind fun typeParams => ((parameters_agree h).within hc).bind
    fun params => (accept_forward _).within.bind fun b => ?_
  extract_lets -underBinder jp jp'
  refine (returnType_agree h (by omega)).optional b fun result => ?_
  unfold jp jp'
  refine isToken_bind ?_ ?_
  · extract_lets -underBinder jp₁
    refine Agree.ite (fun _ => ?_) fun hb => absurd rfl hb
    refine ((h.block_at (by omega)).map some).bind fun body => ?_
    exact lastEnd_agree.bind fun _ => Agree.pure fun _ hs => hs
  · extract_lets -underBinder jp₁
    have hjp₁ : ∀ body, Keeps B c (jp₁ body) (jp₁ body) := fun _ =>
      lastEnd_agree.bind fun _ => Agree.pure fun _ hs => hs
    refine Agree.ite (fun hb => absurd hb (by decide)) fun _ => Agree.pre ?_ fun _ hs => hs.1
    exact Agree.ite (fun _ => semicolon_forward.within.bind fun _ =>
      (Agree.pure fun _ hs => hs).bind hjp₁) fun _ => (expect_forward _).within.bind fun _ =>
        (Agree.pure fun _ hs => hs).bind hjp₁

theorem functionExpression_agree (h : g.AgreeBelow g' B) (start : Nat) (mods : Modifiers) :
    AgreeAt B .functionKeyword 4 (functionExpression g start mods)
      (functionExpression g' start mods) := by
  intro c
  unfold functionExpression
  refine (expect_agree (by decide) 4 (by omega)).bind fun _ => ?_
  refine (accept_forward _).within.bind fun asterisk => isIdentifier_agree.bind fun b => ?_
  extract_lets -underBinder jp jp'
  exact identifier_forward.within.optional b fun name =>
    functionLikeRest_agree h (by omega) _ _ _ _ _ _

theorem arrowHead_agree (h : g.AgreeBelow g' B) :
    Agree (Within B c) (fun r s => Within B c s ∧ (r.isSome → Within B (c + 8) s))
      (arrowHead g) (arrowHead g') := by
  unfold arrowHead
  refine (isToken_agree _).bind fun _ => (peekIs_agree _).bind fun _ => Agree.pre ?_
    fun _ hs => hs.1
  extract_lets -underBinder jp jp'
  suffices hjp : ∀ async, Agree (Within B c)
      (fun r s => Within B c s ∧ (r.isSome → Within B (c + 8) s)) (jp async) (jp' async) by
    exact Agree.ite (fun _ => nextToken_forward.within.bind fun _ =>
      (Agree.pure fun _ hs => hs).bind hjp) fun _ => (Agree.pure fun _ hs => hs).bind hjp
  intro async
  unfold jp jp'
  refine isIdentifier_agree.bind fun _ => ?_
  extract_lets -underBinder jp₁
  have hjp₁ : ∀ head, Agree (Within B c)
      (fun r s => Within B c s ∧ (r.isSome → Within B (c + 8) s)) (jp₁ head) (jp₁ head) := by
    rintro (_ | head)
    · exact Agree.pure fun _ hs => ⟨hs, fun h => absurd h (by simp)⟩
    refine isToken_bind (lineBreakBefore_agree.bind fun _ => Agree.ite (fun _ =>
      Agree.pure fun _ hs => ⟨hs.1, fun h => absurd h (by simp)⟩) fun _ => ?_)
      (lineBreakBefore_agree.bind fun _ => Agree.ite (fun _ =>
        Agree.pure fun _ hs => ⟨hs.1, fun h => absurd h (by simp)⟩) fun hb => absurd (by simp) hb)
    exact (nextToken_consumes.pre fun s hs => ⟨hs.1, by rw [hs.2]; decide⟩).bind fun _ =>
      Agree.pure fun _ hs => ⟨hs.mono (by omega), fun _ => hs⟩
  refine Agree.ite (fun _ => ?_) fun _ => ?_
  · refine tokenPos_agree.bind fun start => identifier_forward.within.bind fun name => ?_
    exact lastEnd_agree.bind fun _ => (Agree.pure fun _ hs => hs).bind hjp₁
  refine (withContext_agree _ (S := Within B c) ?_).bind hjp₁
  refine (typeParameters_agree h).bind fun typeParams => isToken_bind ?_ ?_
  · refine Agree.ite (fun hb => absurd hb (by decide)) fun _ => ?_
    refine (parameters_agree h).at.bind fun x => (accept_forward _).within.bind fun b => ?_
    extract_lets -underBinder jp₂
    exact (returnType_agree h (by omega)).optional b fun result =>
      Agree.pure fun _ hs => hs.mono (by omega)
  · exact Agree.ite (fun _ => Agree.pure fun _ hs => hs.1) fun hb => absurd rfl hb

theorem mayStartArrow_agree {P : Scanner → Prop} [RestoreStable P] :
    Agree P (fun _ s => P s) mayStartArrow mayStartArrow := by
  unfold mayStartArrow
  refine token_agree.bind fun k => (?_ : Agree (fun s => P s ∧ s.token = k)
    (fun _ s => P s ∧ s.token = k) _ _).post fun _ _ hs => hs.1
  split
  case h_3 => exact lookAhead_same _
  case h_4 =>
    exact isIdentifier_agree.bind fun _ => Agree.ite (fun _ => peekIs_agree _) fun _ =>
      Agree.pure fun _ hs => hs
  all_goals exact Agree.pure fun _ hs => hs

theorem arrowFunction_agree (h : g.AgreeBelow g' B) :
    Keeps B c (arrowFunction g) (arrowFunction g') := by
  unfold arrowFunction
  refine (mayStartArrow_agree).bind fun b => Agree.ite (fun _ => Agree.pure fun _ hs => hs)
    fun _ => ?_
  refine tokenPos_agree.bind fun start => (tryParse_agree (arrowHead_agree h)).bind fun r => ?_
  rcases r with _ | head
  · exact Agree.pure fun _ hs => hs.2 rfl
  refine Agree.pre (P := Within B (c + 8)) ?_ fun _ hs => (hs.1 rfl).2 rfl
  refine (withContext_agree _ (S := Within B (c + 8)) (isToken_bind ?_ ?_)).bind fun body => ?_
  · exact Agree.ite (fun _ => h.block_at (by omega)) fun hb => absurd rfl hb
  · exact Agree.ite (fun hb => absurd hb (by decide)) fun _ =>
      (h.assignment _ (by omega)).pre fun _ hs => hs.1
  exact lastEnd_agree.bind fun _ => Agree.pure fun _ hs => hs.mono (by omega)

/-! ### Literals -/

theorem spreadOrAssignment_agree (h : g.AgreeBelow g' B) (hc : 4 ≤ c) :
    Keeps B c (spreadOrAssignment g) (spreadOrAssignment g') := by
  unfold spreadOrAssignment
  refine (isToken_agree _).bind fun _ => Agree.pre ?_ fun _ hs => hs.1
  refine Agree.ite (fun _ => h.assignment c hc) fun _ => ?_
  refine tokenPos_agree.bind fun start => nextToken_forward.within.bind fun _ => ?_
  exact (h.assignment c hc).bind fun e => lastEnd_agree.bind fun _ => Agree.pure fun _ hs => hs

theorem templateSpans_agree (h : g.AgreeBelow g' B) (hc : 5 ≤ c) :
    ∀ n acc, Keeps B c (templateSpans g n acc) (templateSpans g' n acc)
  | 0, _ => Agree.pure fun _ hs => hs
  | n + 1, acc => by
    unfold templateSpans
    refine tokenPos_agree.bind fun start => (h.expression c hc).bind fun e => ?_
    refine (isToken_agree _).bind fun _ => Agree.pre ?_ fun _ hs => hs.1
    refine Agree.ite (fun _ => (errorAtToken_agree _).bind fun _ => Agree.pure fun _ hs => hs)
      fun _ => ?_
    refine rescanTemplate_forward.within.bind fun _ => token_agree.bind fun k => Agree.pre ?_
      fun _ hs => hs.1
    refine literal_forward.within.bind fun text => lastEnd_agree.bind fun _ => ?_
    exact Agree.ite (fun _ => Agree.pure fun _ hs => hs) fun _ => templateSpans_agree h hc n _

theorem templateExpression_at (h : g.AgreeBelow g' B) :
    Agree (fun s => Within B c s ∧ s.token = .templateHead) (fun _ => Within B (c + 8))
      (templateExpression g) (templateExpression g') := by
  unfold templateExpression
  refine tokenPos_agree.bind fun start => ?_
  refine (literal_consumes.pre fun s hs => ⟨hs.1, by rw [hs.2]; decide⟩).bind fun head => ?_
  refine budget_agree.bind fun n => (templateSpans_agree h (by omega) n []).bind fun spans => ?_
  exact lastEnd_agree.bind fun _ => Agree.pure fun _ hs => hs

theorem arrayElements_agree (h : g.AgreeBelow g' B) (hc : 4 ≤ c) :
    ∀ n acc, Keeps B c (arrayElements g n acc) (arrayElements g' n acc)
  | 0, _ => Agree.pure fun _ hs => hs
  | n + 1, acc => by
    unfold arrayElements
    refine (isToken_agree _).bind fun _ => (isToken_agree _).bind fun _ => ?_
    refine Agree.ite (fun _ => Agree.pure fun _ hs => hs.1.1) fun _ => Agree.pre ?_
      fun _ hs => hs.1.1
    refine (isToken_agree _).bind fun _ => Agree.pre ?_ fun _ hs => hs.1
    refine Agree.ite (fun _ => ?_) fun _ => ?_
    · refine tokenPos_agree.bind fun pos => nextToken_forward.within.bind fun _ => ?_
      exact arrayElements_agree h hc n _
    refine (spreadOrAssignment_agree h hc).bind fun e => (accept_forward _).within.bind fun b => ?_
    exact Agree.ite (fun _ => arrayElements_agree h hc n _) fun _ => Agree.pure fun _ hs => hs

theorem arrayLiteral_agree (h : g.AgreeBelow g' B) :
    AgreeAt B .openBracketToken 4 (arrayLiteral g) (arrayLiteral g') := by
  intro c
  unfold arrayLiteral
  refine tokenPos_agree.bind fun start => (expect_agree (by decide) 4 (by omega)).bind fun _ => ?_
  refine budget_agree.bind fun n => (allowIn_agree (arrayElements_agree h (by omega) n [])).bind
    fun elements => ?_
  refine (expect_forward _).within.bind fun _ => lastEnd_agree.bind fun stop => ?_
  exact (spansLines_agree _ _).bind fun _ => Agree.pure fun _ hs => hs

theorem memberPrefix_forward : Forward memberPrefix := by
  unfold memberPrefix
  refine token_agree.bind fun k => Agree.pre ?_ fun _ _ => trivial
  extract_lets -underBinder jp
  have hjp : ∀ u, Forward (jp u) := fun _ => Agree.pure fun _ _ => trivial
  refine Agree.ite (fun _ => ?_) fun _ => hjp ()
  refine (startsMemberName_agree).bind fun b => Agree.ite (fun _ => ?_) fun _ => hjp ()
  refine nextToken_forward.bind fun _ => Agree.ite (fun _ => Agree.pure fun _ _ => trivial)
    fun _ => Agree.ite (fun _ => Agree.pure fun _ _ => trivial) fun _ => ?_
  exact Agree.pure fun _ _ => trivial

theorem objectLiteralElement_agree (h : g.AgreeBelow g' B) (hc : 4 ≤ c) :
    Keeps B c (objectLiteralElement g) (objectLiteralElement g') := by
  unfold objectLiteralElement
  refine tokenPos_agree.bind fun start => (accept_forward _).within.bind fun b =>
    Agree.ite (fun _ => ?_) fun _ => ?_
  · exact (h.assignment c hc).bind fun e => lastEnd_agree.bind fun _ => Agree.pure fun _ hs => hs
  refine memberPrefix_forward.within.bind fun x => ?_
  rcases x with ⟨async, accessor⟩
  dsimp -zeta only
  extract_lets -underBinder jp jp'
  suffices hjp : ∀ asterisk, Keeps B c (jp asterisk) (jp' asterisk) by
    exact Agree.ite (fun _ => (accept_forward _).within.bind hjp) fun _ =>
      (Agree.pure fun _ hs => hs).bind hjp
  intro asterisk
  unfold jp jp'
  refine isIdentifier_agree.bind fun nameIsIdentifier => (propertyName_agree h hc).bind
    fun name => ?_
  extract_lets -underBinder mods
  split
  · exact functionLikeRest_agree h hc _ _ _ _ _ _
  refine (isToken_agree _).bind fun _ => (isToken_agree _).bind fun _ => Agree.pre ?_
    fun _ hs => hs.1.1
  refine Agree.ite (fun _ => functionLikeRest_agree h hc _ _ _ _ _ _) fun _ => ?_
  extract_lets -underBinder jp₁ jp₁'
  have hjp₁ : ∀ u, Keeps B c (jp₁ u) (jp₁' u) := fun _ =>
    (expect_forward _).within.bind fun _ => (h.assignment c hc).bind fun init =>
      lastEnd_agree.bind fun _ => Agree.pure fun _ hs => hs
  refine Agree.ite (fun _ => ?_) fun _ => hjp₁ ()
  refine (isToken_agree _).bind fun _ => (isToken_agree _).bind fun _ => (isToken_agree _).bind
    fun _ => Agree.pre ?_ fun _ hs => hs.1.1.1
  refine Agree.ite (fun _ => ?_) fun _ => hjp₁ ()
  refine (accept_forward _).within.bind fun b => ?_
  extract_lets -underBinder jp₂
  exact (h.assignment c hc).optional b fun init => lastEnd_agree.bind fun _ =>
    Agree.pure fun _ hs => hs

theorem objectLiteral_agree (h : g.AgreeBelow g' B) :
    AgreeAt B .openBraceToken 4 (objectLiteral g) (objectLiteral g') := by
  intro c
  unfold objectLiteral
  refine tokenPos_agree.bind fun start => (expect_agree (by decide) 4 (by omega)).bind fun _ => ?_
  refine (allowIn_agree (delimited_agree _ (objectLiteralElement_agree h (by omega)))).bind
    fun elements => ?_
  refine (expect_forward _).within.bind fun _ => lastEnd_agree.bind fun stop => ?_
  exact (spansLines_agree _ _).bind fun _ => Agree.pure fun _ hs => hs

/-! ### Primary and member expressions -/

theorem startsAsyncFunction_agree {P : Scanner → Prop} [RestoreStable P] :
    Agree P (fun _ s => P s) startsAsyncFunction startsAsyncFunction :=
  lookAhead_same _

/-- A primary expression asks for no credit: the nested expressions it reads stand after the
token that opens them. -/
theorem primary_agree (h : g.AgreeBelow g' B) : Keeps B c (primary g) (primary g') := by
  unfold primary
  refine tokenPos_agree.bind fun start => token_agree.bind fun k => ?_
  split
  case h_5 => exact (templateExpression_at h).post fun _ _ hs => hs.mono (by omega)
  case h_12 =>
    refine (nextToken_consumes.pre fun s hs => ⟨hs.1, by rw [hs.2]; decide⟩).bind fun _ => ?_
    refine (allowIn_agree (h.expression (c + 8) (by omega))).bind fun e => ?_
    exact (expect_forward _).within.bind fun _ => lastEnd_agree.bind fun _ =>
      Agree.pure fun _ hs => hs.mono (by omega)
  case h_13 => exact (arrayLiteral_agree h).at.post fun _ _ hs => hs.mono (by omega)
  case h_14 => exact (objectLiteral_agree h).at.post fun _ _ hs => hs.mono (by omega)
  case h_15 => exact (functionExpression_agree h _ _).at.post fun _ _ hs => hs.mono (by omega)
  case h_16 => exact (unsupportedDeclaration_forward _).within.pre fun _ hs => hs.1
  case h_17 | h_18 =>
    exact (rescanSlash_forward.within.bind fun _ => literal_forward.within).pre fun _ hs => hs.1
  case h_19 =>
    refine ((reportUnsupported_agree _).bind fun _ => ?_).pre fun _ hs => hs.1
    exact nextToken_forward.within.bind fun _ => missingIdent_agree
  case h_20 =>
    extract_lets -underBinder jp
    have hjp : ∀ u, Agree (fun s => Within B c s ∧ s.token = k) (fun _ => Within B c) (jp u)
        (jp u) := fun _ =>
      (isIdentifier_agree.bind fun _ => Agree.ite (fun _ => identifier_forward.within) fun _ =>
        (errorAtToken_agree _).bind fun _ => missingIdent_agree).pre fun _ hs => hs.1
    refine Agree.ite (fun hk => ?_) fun _ => hjp ()
    refine (startsAsyncFunction_agree).bind fun b => Agree.ite (fun _ => ?_) fun _ => hjp ()
    refine (nextToken_consumes.pre fun s hs => ⟨hs.1, fun he => ?_⟩).bind fun _ => ?_
    · rw [hs.2] at he
      subst he
      exact absurd hk (by decide)
    · exact ((functionExpression_agree h _ _).within (by omega)).post fun _ _ hs =>
        hs.mono (by omega)
  case h_1 | h_2 | h_3 | h_4 => exact literal_forward.within.pre fun _ hs => hs.1
  case h_6 | h_7 | h_8 | h_9 | h_10 | h_11 => exact keywordNode_forward.within.pre fun _ hs => hs.1

theorem arguments_agree (h : g.AgreeBelow g' B) :
    AgreeAt B .openParenToken 4 (arguments g) (arguments g') := by
  intro c
  unfold arguments
  refine (expect_agree (by decide) 4 (by omega)).bind fun _ => ?_
  refine (allowIn_agree (delimited_agree _ (spreadOrAssignment_agree h (by omega)))).bind
    fun args => ?_
  exact (expect_forward _).within.bind fun _ => Agree.pure fun _ hs => hs

theorem callRest_agree (h : g.AgreeBelow g' B) (start : Nat) (callee : Node)
    (typeArgs : Option (List Node)) (questionDot : Bool) :
    AgreeAt B .openParenToken 4 (callRest g start callee typeArgs questionDot)
      (callRest g' start callee typeArgs questionDot) := fun c => by
  unfold callRest
  exact (arguments_agree h c).bind fun args => lastEnd_agree.bind fun _ =>
    Agree.pure fun _ hs => hs

theorem elementAccessRest_agree (h : g.AgreeBelow g' B) (start : Nat) (object : Node)
    (questionDot : Bool) :
    AgreeAt B .openBracketToken 5 (elementAccessRest g start object questionDot)
      (elementAccessRest g' start object questionDot) := by
  intro c
  unfold elementAccessRest
  refine (expect_agree (by decide) 5 (by omega)).bind fun _ => ?_
  refine (allowIn_agree (h.expression _ (by omega))).bind fun index => ?_
  exact (expect_forward _).within.bind fun _ => lastEnd_agree.bind fun _ =>
    Agree.pure fun _ hs => hs

theorem taggedTemplateRest_agree (h : g.AgreeBelow g' B) (start : Nat) (tag : Node)
    (typeArgs : Option (List Node)) :
    Keeps B c (taggedTemplateRest g start tag typeArgs) (taggedTemplateRest g' start tag typeArgs) := by
  unfold taggedTemplateRest
  refine isToken_bind ?_ ?_
  · extract_lets -underBinder jp
    refine Agree.ite (fun _ => (templateExpression_at h).bind fun t => ?_) fun hb => absurd rfl hb
    exact lastEnd_agree.bind fun _ => Agree.pure fun _ hs => hs.mono (by omega)
  · extract_lets -underBinder jp
    refine Agree.ite (fun hb => absurd hb (by decide)) fun _ => ?_
    exact (literal_forward.within.pre fun _ hs => hs.1).bind fun t => lastEnd_agree.bind fun _ =>
      Agree.pure fun _ hs => hs

theorem typeArgumentsOfCall_agree (h : g.AgreeBelow g' B) (allowCalls : Bool) :
    Keeps B c (typeArgumentsOfCall g allowCalls) (typeArgumentsOfCall g' allowCalls) := by
  unfold typeArgumentsOfCall
  refine tryParse_keeps ((typeArguments_agree h).bind fun r => ?_)
  rcases r with _ | args
  · exact Agree.pure fun _ hs => hs
  · exact (isToken_agree _).bind fun _ => (isToken_agree _).bind fun _ => (isToken_agree _).bind
      fun _ => Agree.pure fun _ hs => hs.1.1.1

theorem memberRest_agree (h : g.AgreeBelow g' B) (start : Nat) (allowCalls : Bool) :
    ∀ n e, Keeps B c (memberRest g start allowCalls n e) (memberRest g' start allowCalls n e)
  | 0, _ => Agree.pure fun _ hs => hs
  | n + 1, e => by
    unfold memberRest
    have ih : ∀ e, Keeps B c (memberRest g start allowCalls n e)
        (memberRest g' start allowCalls n e) := memberRest_agree h start allowCalls n
    refine token_agree.bind fun k => ?_
    split
    case h_1 =>
      refine (nextToken_forward.within.pre fun _ hs => hs.1).bind fun _ => (isToken_agree _).bind
        fun _ => Agree.pre ?_ fun _ hs => hs.1
      extract_lets -underBinder jp jp'
      have hjp : ∀ u, Keeps B c (jp u) (jp' u) := fun _ =>
        identifierName_forward.within.bind fun name => lastEnd_agree.bind fun _ => ih _
      exact Agree.ite (fun _ => (reportUnsupported_agree _).bind hjp) fun _ => hjp ()
    case h_2 =>
      refine (nextToken_consumes.pre fun s hs => ⟨hs.1, by rw [hs.2]; decide⟩).bind fun _ =>
        token_agree.bind fun k => Agree.pre ?_ fun _ hs => hs.1
      extract_lets -underBinder jp jp'
      have hjp : ∀ e, Agree (Within B (c + 8)) (fun _ => Within B c) (jp e) (jp' e) := fun e =>
        (ih e).pre fun _ hs => hs.mono (by omega)
      refine Agree.ite (fun _ => ((callRest_agree h _ _ _ _).within (by omega)).bind hjp)
        fun _ => ?_
      refine Agree.ite (fun _ => (typeArguments_agree h).bind fun args =>
        ((callRest_agree h _ _ _ _).within (by omega)).bind hjp) fun _ => ?_
      refine Agree.ite (fun _ => ((elementAccessRest_agree h _ _ _).within (by omega)).bind hjp)
        fun _ => ?_
      exact identifierName_forward.within.bind fun name => lastEnd_agree.bind fun _ =>
        (Agree.pure fun _ hs => hs).bind hjp
    case h_3 =>
      exact (elementAccessRest_agree h _ _ _).at.bind fun e => (ih e).pre fun _ hs =>
        hs.mono (by omega)
    case h_4 =>
      refine (lineBreakBefore_agree.bind fun _ => Agree.ite (fun _ => Agree.pure fun _ hs => hs)
        fun _ => ?_).pre fun _ hs => hs.1
      exact nextToken_forward.within.bind fun _ => lastEnd_agree.bind fun _ => ih _
    case h_5 | h_6 =>
      exact ((taggedTemplateRest_agree h _ _ _).pre fun _ hs => hs.1).bind ih
    case h_7 =>
      exact Agree.ite (fun _ => Agree.pure fun _ hs => hs.1) fun _ =>
        (callRest_agree h _ _ _ _).at.bind fun e => (ih e).pre fun _ hs => hs.mono (by omega)
    case h_8 =>
      refine ((typeArgumentsOfCall_agree h allowCalls).pre fun _ hs => hs.1).bind fun r => ?_
      rcases r with _ | args
      · exact Agree.pure fun _ hs => hs
      refine isToken_bind ?_ ?_
      · extract_lets -underBinder jp jp'
        exact Agree.ite (fun _ => (callRest_agree h _ _ _ _).at.bind fun e => (ih e).pre
          fun _ hs => hs.mono (by omega)) fun hb => absurd rfl hb
      · extract_lets -underBinder jp jp'
        exact Agree.ite (fun hb => absurd hb (by decide)) fun _ =>
          ((taggedTemplateRest_agree h _ _ _).pre fun _ hs => hs.1).bind ih
    case h_9 => exact Agree.pure fun _ hs => hs.1

theorem newExpression_agree (h : g.AgreeBelow g' B) :
    AgreeAt B .newKeyword 4 (newExpression g) (newExpression g') := by
  intro c
  unfold newExpression
  refine tokenPos_agree.bind fun start => tokenEnd_agree.bind fun keywordEnd => ?_
  refine (expect_agree (by decide) 4 (by omega)).bind fun _ => ?_
  refine (isToken_agree _).bind fun _ => Agree.pre ?_ fun _ hs => hs.1
  refine Agree.ite (fun _ => ?_) fun _ => ?_
  · exact nextToken_forward.within.bind fun _ => identifierName_forward.within.bind fun name =>
      lastEnd_agree.bind fun _ => Agree.pure fun _ hs => hs
  refine tokenPos_agree.bind fun calleeStart => (isToken_agree _).bind fun b => ?_
  extract_lets -underBinder jp jp'
  suffices hjp : ∀ callee, Keeps B (c + 4) (jp callee) (jp' callee) by
    refine Agree.ite (fun hb => ?_) fun _ => ((primary_agree h).pre fun _ hs => hs.1).bind hjp
    exact ((h.newExpression _ (by omega)).pre fun _ hs => ⟨hs.1, by simpa [hb] using hs.2⟩).bind hjp
  intro callee
  unfold jp jp'
  refine budget_agree.bind fun n => (memberRest_agree h _ _ n callee).bind fun e =>
    (isToken_agree _).bind fun b => Agree.pre ?_ fun _ hs => hs.1
  extract_lets -underBinder jp₁ jp₁'
  suffices hjp₁ : ∀ typeArgs, Keeps B (c + 4) (jp₁ typeArgs) (jp₁' typeArgs) by
    exact Agree.ite (fun _ => (tryParse_keeps (typeArguments_agree h)).bind hjp₁) fun _ =>
      (Agree.pure fun _ hs => hs).bind hjp₁
  intro typeArgs
  unfold jp₁ jp₁'
  refine (isToken_agree _).bind fun b => Agree.pre ?_ fun _ hs => hs.1
  extract_lets -underBinder jp₂
  exact ((arguments_agree h).within (by omega)).optional b fun args => lastEnd_agree.bind fun _ =>
    Agree.pure fun _ hs => hs

theorem leftHandSide_agree (h : g.AgreeBelow g' B) (hc : 1 ≤ c) :
    Keeps B c (leftHandSide g) (leftHandSide g') := by
  unfold leftHandSide
  refine tokenPos_agree.bind fun start => (isToken_agree _).bind fun b => ?_
  extract_lets -underBinder jp jp'
  have hjp : ∀ e, Keeps B c (jp e) (jp' e) := fun e =>
    budget_agree.bind fun n => memberRest_agree h start true n e
  exact Agree.ite (fun hb => ((h.newExpression c hc).pre fun _ hs =>
    ⟨hs.1, by simpa [hb] using hs.2⟩).bind hjp) fun _ => ((primary_agree h).pre fun _ hs => hs.1).bind hjp

/-! ### Operators and assignments -/

theorem isAwaitOperator_agree {P : Scanner → Prop} [RestoreStable P] :
    Agree P (fun _ s => P s) isAwaitOperator isAwaitOperator := by
  unfold isAwaitOperator
  exact get_agree.bind fun q => Agree.ite (fun _ => Agree.pure fun _ hs => hs.1) fun _ =>
    (lookAhead_same _).pre fun _ hs => hs.1

theorem prefixUnary_agree (h : g.AgreeBelow g' B) (start : Nat) :
    Agree (fun s => Within B c s ∧ s.token ≠ .endOfFileToken) (fun _ => Within B c)
      (prefixUnary g start) (prefixUnary g' start) := by
  unfold prefixUnary
  refine token_agree.bind fun op => (nextToken_consumes.pre fun _ hs => hs.1).bind fun _ => ?_
  exact (h.unary _ (by omega)).bind fun operand => lastEnd_agree.bind fun _ =>
    Agree.pure fun _ hs => hs.mono (by omega)

theorem unaryBody_agree (h : g.AgreeBelow g' B) (hc : 1 ≤ c) :
    Keeps B c (unaryBody g) (unaryBody g') := by
  unfold unaryBody
  refine tokenPos_agree.bind fun start => token_agree.bind fun k => Agree.ite (fun hk => ?_)
    fun _ => ?_
  · refine (prefixUnary_agree h start).pre fun s hs => ⟨hs.1, fun he => ?_⟩
    rw [hs.2] at he
    subst he
    exact absurd hk (by decide)
  extract_lets -underBinder jp jp'
  suffices hjp : ∀ u, Agree (fun s => Within B c s ∧ s.token = k) (fun _ => Within B c) (jp u)
      (jp' u) by
    refine Agree.ite (fun hk => ?_) fun _ => hjp ()
    refine (isAwaitOperator_agree).bind fun b => Agree.ite (fun _ => ?_) fun _ => hjp ()
    exact (prefixUnary_agree h start).pre fun s hs => ⟨hs.1, by rw [hs.2, beq_iff_eq.1 hk]; decide⟩
  intro u
  unfold jp jp'
  refine Agree.ite (fun _ => ?_) fun _ => Agree.pre ?_ fun _ hs => hs.1
  · refine ((reportUnsupported_agree _).bind fun _ => ?_).pre fun _ hs => hs.1
    exact nextToken_forward.within.bind fun _ => missingIdent_agree
  refine (leftHandSide_agree h hc).bind fun e => (isToken_agree _).bind fun _ =>
    (isToken_agree _).bind fun _ => lineBreakBefore_agree.bind fun _ => Agree.pre ?_
      fun _ hs => hs.1.1
  refine Agree.ite (fun _ => ?_) fun _ => Agree.pure fun _ hs => hs
  exact token_agree.bind fun op => (nextToken_forward.within.pre fun _ hs => hs.1).bind fun _ =>
    lastEnd_agree.bind fun _ => Agree.pure fun _ hs => hs

theorem binaryRest_agree (h : g.AgreeBelow g' B) (start minPrec : Nat) :
    ∀ n left, Keeps B c (binaryRest g start minPrec n left) (binaryRest g' start minPrec n left)
  | 0, _ => Agree.pure fun _ hs => hs
  | n + 1, left => by
    have ih : ∀ left, Keeps B c (binaryRest g start minPrec n left)
        (binaryRest g' start minPrec n left) := binaryRest_agree h start minPrec n
    unfold binaryRest
    refine (isToken_agree _).bind fun _ => Agree.pre ?_ fun _ hs => hs.1
    extract_lets -underBinder jp jp'
    suffices hjp : ∀ u, Keeps B c (jp u) (jp' u) by
      exact Agree.ite (fun _ => rescanGreater_forward.within.bind hjp) fun _ => hjp ()
    intro u
    unfold jp jp'
    refine token_agree.bind fun op => get_agree.bind fun q => ?_
    extract_lets -underBinder prec
    refine Agree.ite (fun _ => Agree.pure fun _ hs => hs.1.1) fun hprec => ?_
    refine Agree.ite (fun _ => Agree.pure fun _ hs => hs.1.1) fun _ => ?_
    have hop : op ≠ .endOfFileToken := by
      intro he
      apply hprec
      show (binaryPrecedence op q.context.disallowIn == 0) = true
      rw [he]
      cases q.context.disallowIn <;> rfl
    refine Agree.pre (P := fun s => Within B c s ∧ s.token ≠ .endOfFileToken) ?_
      fun s hs => ⟨hs.1.1, by rw [hs.1.2]; exact hop⟩
    refine Agree.ite (fun _ => ?_) fun _ => ?_
    · refine lineBreakBefore_agree.bind fun _ => Agree.ite (fun _ => Agree.pure fun _ hs => hs.1)
        fun _ => ?_
      refine nextToken_consumes.bind fun _ => (h.type _ (by omega)).bind fun type =>
        lastEnd_agree.bind fun stop => ?_
      extract_lets -underBinder e
      exact (ih _).pre fun _ hs => hs.mono (by omega)
    · refine nextToken_consumes.bind fun _ => (h.binary _ prec (by omega)).bind fun right => ?_
      exact lastEnd_agree.bind fun _ => (ih _).pre fun _ hs => hs.mono (by omega)

theorem binaryBody_agree (h : g.AgreeBelow g' B) (hc : 2 ≤ c) (minPrec : Nat) :
    Keeps B c (binaryBody g minPrec) (binaryBody g' minPrec) := by
  unfold binaryBody
  exact tokenPos_agree.bind fun start => (h.unary c hc).bind fun left =>
    budget_agree.bind fun n => binaryRest_agree h start minPrec n left

theorem yieldExpression_at (h : g.AgreeBelow g' B) :
    Agree (fun s => Within B c s ∧ s.token = .yieldKeyword) (fun _ => Within B c)
      (yieldExpression g) (yieldExpression g') := by
  unfold yieldExpression
  refine tokenPos_agree.bind fun start => (nextToken_consumes.pre fun s hs =>
    ⟨hs.1, by rw [hs.2]; decide⟩).bind fun _ => Agree.post (Q := fun _ => Within B (c + 8)) ?_
      fun _ _ hs => hs.mono (by omega)
  refine lineBreakBefore_agree.bind fun b => ?_
  extract_lets -underBinder jp jp'
  suffices hjp : ∀ delegate, Keeps B (c + 8) (jp delegate) (jp' delegate) by
    exact Agree.ite (fun _ => (Agree.pure fun _ hs => hs).bind hjp) fun _ =>
      (accept_forward _).within.bind hjp
  intro delegate
  unfold jp jp'
  refine lineBreakBefore_agree.bind fun _ => startsExpression_agree.bind fun _ => ?_
  extract_lets -underBinder jp₁
  exact (h.assignment _ (by omega)).optional _ fun operand => lastEnd_agree.bind fun _ =>
    Agree.pure fun _ hs => hs

theorem assignmentBody_agree (h : g.AgreeBelow g' B) (hc : 3 ≤ c) :
    Keeps B c (assignmentBody g) (assignmentBody g') := by
  unfold assignmentBody
  refine (isToken_agree _).bind fun _ => get_agree.bind fun q => ?_
  refine Agree.ite (fun hb => ?_) fun _ => Agree.pre ?_ fun _ hs => hs.1.1
  · refine (yieldExpression_at h).pre fun s hs => ⟨hs.1.1, ?_⟩
    simp only [Bool.and_eq_true] at hb
    simpa [hb.1] using hs.1.2
  refine (arrowFunction_agree h).bind fun r => ?_
  rcases r with _ | arrow
  · refine tokenPos_agree.bind fun start => (h.binary c 0 hc).bind fun left =>
      token_agree.bind fun k => Agree.ite (fun hk => ?_) fun _ => Agree.ite (fun hk => ?_) fun _ =>
        Agree.pure fun _ hs => hs.1
    · refine (nextToken_consumes.pre fun s hs => ⟨hs.1, fun he => ?_⟩).bind fun _ => ?_
      · rw [hs.2] at he
        subst he
        exact absurd hk (by decide)
      · exact (h.assignment _ (by omega)).bind fun right => lastEnd_agree.bind fun _ =>
          Agree.pure fun _ hs => hs.mono (by omega)
    · refine (nextToken_consumes.pre fun s hs => ⟨hs.1, by rw [hs.2, beq_iff_eq.1 hk]; decide⟩).bind
        fun _ => ?_
      refine (allowIn_agree (h.assignment _ (by omega))).bind fun whenTrue =>
        (expect_forward _).within.bind fun _ => (h.assignment _ (by omega)).bind fun whenFalse => ?_
      exact lastEnd_agree.bind fun _ => Agree.pure fun _ hs => hs.mono (by omega)
  · exact Agree.pure fun _ hs => hs

theorem assignment_agree (h : g.AgreeBelow g' B) (hc : 3 ≤ c) :
    Keeps B c (assignment g) (assignment g') :=
  guarded_agree missingIdent_agree (assignmentBody_agree h hc)

theorem commaRest_agree (h : g.AgreeBelow g' B) (start : Nat) :
    ∀ n left, Keeps B c (commaRest g start n left) (commaRest g' start n left)
  | 0, _ => Agree.pure fun _ hs => hs
  | n + 1, left => by
    unfold commaRest
    refine isToken_bind ?_ (Agree.ite (fun _ => Agree.pure fun _ hs => hs.1) fun hb => absurd rfl hb)
    refine Agree.ite (fun hb => absurd hb (by decide)) fun _ => ?_
    refine (nextToken_consumes.pre fun s hs => ⟨hs.1, by rw [hs.2]; decide⟩).bind fun _ => ?_
    exact (h.assignment _ (by omega)).bind fun right => lastEnd_agree.bind fun _ =>
      (commaRest_agree h start n _).pre fun _ hs => hs.mono (by omega)

theorem expression_agree (h : g.AgreeBelow g' B) (hc : 4 ≤ c) :
    Keeps B c (expression g) (expression g') := by
  unfold expression
  exact tokenPos_agree.bind fun start => (h.assignment c hc).bind fun first =>
    budget_agree.bind fun n => commaRest_agree h start n first

end Parser

end ParamNarrow
