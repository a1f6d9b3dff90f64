import ParamNarrow.Proofs.ParserProgress
import ParamNarrow.Syntax.Parser.Types
/-!
# Binding patterns and types agree below their fuel

Binding patterns, signatures and types run alike on two grammars, and go forward, from every
scanner with enough credit left, once the two grammars' entry points agree with one unit of
credit less (`Grammar.AgreeBelow`). The credit a step asks for is the most its callees ask for
before it consumes a token: a consumed token frees eight, so a part read after an opening
bracket asks nothing of the caller. Steps that open with the bracket they expect are stated in
the `AgreeAt` form, and a binding name, a type without suffixes and a prefixed type ask for no
credit at all.
-/

namespace ParamNarrow

namespace Parser

variable {g g' : Grammar} {B c : Nat}

/-! ### Names and binding patterns -/

theorem propertyName_agree (h : g.AgreeBelow g' B) (hc : 4 ≤ c) :
    Keeps B c (propertyName g) (propertyName g') := by
  unfold propertyName
  refine token_agree.bind fun k => Agree.pre ?_ fun _ hs => hs.1
  split
  case h_4 =>
    refine tokenPos_agree.bind fun start => nextToken_forward.within.bind fun _ => ?_
    refine (h.assignment c hc).bind fun e => (expect_forward _).within.bind fun _ => ?_
    exact lastEnd_agree.bind fun stop => Agree.pure fun _ hs => hs
  case h_5 =>
    exact (reportUnsupported_agree _).bind fun _ => nextToken_forward.within.bind fun _ =>
      identifierName_forward.within
  case h_6 => exact identifierName_forward.within
  all_goals exact literal_forward.within

theorem initializer_agree (h : g.AgreeBelow g' B) (hc : 4 ≤ c) :
    Keeps B c (initializer g) (initializer g') := by
  unfold initializer
  refine (accept_forward _).within.bind fun b => Agree.ite (fun _ => ?_) fun _ => ?_
  · exact (h.assignment c hc).bind fun e => Agree.pure fun _ hs => hs
  · exact Agree.pure fun _ hs => hs

theorem objectBindingElement_agree (h : g.AgreeBelow g' B) (hc : 4 ≤ c) :
    Keeps B c (objectBindingElement g) (objectBindingElement g') := by
  unfold objectBindingElement
  refine tokenPos_agree.bind fun start => (accept_forward _).within.bind fun rest => ?_
  extract_lets -underBinder jp jp'
  have hjp : ∀ x, Keeps B c (jp x) (jp' x) := by
    rintro ⟨key, name⟩
    exact (initializer_agree h hc).bind fun init => lastEnd_agree.bind fun stop =>
      Agree.pure fun _ hs => hs
  refine Agree.ite (fun _ => ?_) fun _ => ?_
  · exact identifier_forward.within.bind fun name => (Agree.pure fun _ hs => hs).bind hjp
  refine isIdentifier_agree.bind fun keyIsIdentifier => (propertyName_agree h hc).bind fun key => ?_
  refine (accept_forward _).within.bind fun b => Agree.ite (fun _ => ?_) fun _ => ?_
  · exact (h.bindingName c (by omega)).bind fun name => (Agree.pure fun _ hs => hs).bind hjp
  extract_lets -underBinder jp₁ jp₁'
  have hjp₁ : ∀ u, Keeps B c (jp₁ u) (jp₁' u) := by
    intro u
    unfold jp₁ jp₁'
    exact (Agree.pure fun _ hs => hs).bind hjp
  refine Agree.ite (fun _ => ?_) fun _ => hjp₁ ()
  exact (expect_forward _).within.bind fun _ => hjp₁ ()

theorem objectBindingPattern_agree (h : g.AgreeBelow g' B) :
    AgreeAt B .openBraceToken 4 (objectBindingPattern g) (objectBindingPattern g') := by
  intro c
  unfold objectBindingPattern
  refine tokenPos_agree.bind fun start => (expect_agree (by decide) 4 (by omega)).bind fun _ => ?_
  refine (delimited_agree _ (objectBindingElement_agree h (by omega))).bind fun _ => ?_
  refine (expect_forward _).within.bind fun _ => lastEnd_agree.bind fun stop => ?_
  exact Agree.pure fun _ hs => hs

theorem arrayBindingElements_agree (h : g.AgreeBelow g' B) (hc : 4 ≤ c) :
    ∀ n acc, Keeps B c (arrayBindingElements g n acc) (arrayBindingElements g' n acc)
  | 0, _ => Agree.pure fun _ hs => hs
  | n + 1, acc => by
    unfold arrayBindingElements
    refine (isToken_agree _).bind fun _ => (isToken_agree _).bind fun _ => ?_
    refine Agree.ite (fun _ => Agree.pure fun _ hs => hs.1.1) fun _ => Agree.pre ?_
      fun _ hs => hs.1.1
    refine (isToken_agree _).bind fun _ => Agree.pre ?_ fun _ hs => hs.1
    refine Agree.ite (fun _ => ?_) fun _ => ?_
    · refine tokenPos_agree.bind fun pos => nextToken_forward.within.bind fun _ => ?_
      exact arrayBindingElements_agree h hc n _
    refine tokenPos_agree.bind fun start => (accept_forward _).within.bind fun rest => ?_
    refine (h.bindingName c (by omega)).bind fun name => (initializer_agree h hc).bind
      fun init => lastEnd_agree.bind fun stop => ?_
    refine (accept_forward _).within.bind fun b => Agree.ite (fun _ => ?_) fun _ => ?_
    · exact arrayBindingElements_agree h hc n _
    · exact Agree.pure fun _ hs => hs

theorem arrayBindingPattern_agree (h : g.AgreeBelow g' B) :
    AgreeAt B .openBracketToken 4 (arrayBindingPattern g) (arrayBindingPattern g') := by
  intro c
  unfold arrayBindingPattern
  refine tokenPos_agree.bind fun start => (expect_agree (by decide) 4 (by omega)).bind fun _ => ?_
  refine budget_agree.bind fun n => (arrayBindingElements_agree h (by omega) n []).bind fun _ => ?_
  refine (expect_forward _).within.bind fun _ => lastEnd_agree.bind fun stop => ?_
  exact Agree.pure fun _ hs => hs

/-- A binding name asks for no credit of its own: its patterns open with the bracket they
consume. -/
theorem bindingName_agree (h : g.AgreeBelow g' B) :
    Keeps B c (bindingName g) (bindingName g') := by
  unfold bindingName
  refine token_agree.bind fun k => ?_
  split
  · exact (objectBindingPattern_agree h).at.post fun _ _ hs => hs.mono (by omega)
  · exact (arrayBindingPattern_agree h).at.post fun _ _ hs => hs.mono (by omega)
  · exact identifier_forward.within.pre fun _ hs => hs.1

/-! ### Names, arguments and signatures -/

theorem unsupportedType_forward (what : String) : Forward (unsupportedType what) := by
  unfold unsupportedType
  exact (reportUnsupported_agree _).bind fun _ => missingIdent_agree.bind fun _ =>
    nextToken_forward.bind fun _ => Agree.pure fun _ hs => hs

theorem qualifiedRest_forward (start : Nat) : ∀ n name, Forward (qualifiedRest start n name)
  | 0, _ => Agree.pure fun _ hs => hs
  | n + 1, name => by
    unfold qualifiedRest
    refine (accept_forward _).bind fun b => Agree.ite (fun _ => ?_) fun _ =>
      Agree.pure fun _ hs => hs
    exact identifierName_forward.bind fun right => lastEnd_agree.bind fun stop =>
      qualifiedRest_forward start n _

theorem entityName_forward (allowThis : Bool) : Forward (entityName allowThis) := by
  unfold entityName
  refine tokenPos_agree.bind fun start => (isToken_agree _).bind fun _ => Agree.pre ?_
    fun _ _ => trivial
  extract_lets jp
  have hjp : ∀ first, Forward (jp first) := fun first =>
    budget_agree.bind fun n => qualifiedRest_forward start n first
  exact Agree.ite (fun _ => identifierName_forward.bind hjp) fun _ => identifier_forward.bind hjp

theorem typeArguments_agree (h : g.AgreeBelow g' B) :
    Keeps B c (typeArguments g) (typeArguments g') := by
  unfold typeArguments
  refine isToken_bind ?_ (Agree.ite (fun _ => Agree.pure fun _ hs => hs.1) fun hb => absurd rfl hb)
  refine Agree.ite (fun hb => absurd hb (by decide)) fun _ => ?_
  refine (nextToken_consumes.pre fun s hs => ⟨hs.1, by rw [hs.2]; decide⟩).bind fun _ => ?_
  refine (delimited_agree _ (h.type (c + 8) (by omega))).bind fun _ => ?_
  exact (expect_forward _).within.bind fun _ => Agree.pure fun _ hs => hs.mono (by omega)

theorem typeReference_agree (h : g.AgreeBelow g' B) :
    Keeps B c (typeReference g) (typeReference g') := by
  unfold typeReference
  refine tokenPos_agree.bind fun start => (entityName_forward false).within.bind fun name => ?_
  refine (isToken_agree _).bind fun _ => Agree.pre ?_ fun _ hs => hs.1
  refine lineBreakBefore_agree.bind fun _ => ?_
  extract_lets -underBinder jp
  have hjp : ∀ args, Keeps B c (jp args) (jp args) := fun _ =>
    lastEnd_agree.bind fun _ => Agree.pure fun _ hs => hs
  exact Agree.ite (fun _ => (typeArguments_agree h).bind hjp) fun _ =>
    (Agree.pure fun _ hs => hs).bind hjp

theorem typeParameter_agree (h : g.AgreeBelow g' B) (hc : 2 ≤ c) :
    Keeps B c (typeParameter g) (typeParameter g') := by
  unfold typeParameter
  refine tokenPos_agree.bind fun start => token_agree.bind fun k => Agree.pre ?_ fun _ hs => hs.1
  extract_lets -underBinder jp jp'
  suffices hjp : ∀ u, Keeps B c (jp u) (jp' u) by
    refine Agree.ite (fun _ => ?_) fun _ => hjp ()
    refine (lookAhead_same _).bind fun b => Agree.ite (fun _ => ?_) fun _ => hjp ()
    exact (reportUnsupported_agree _).bind fun _ => nextToken_forward.within.bind hjp
  intro u
  unfold jp jp'
  refine identifier_forward.within.bind fun name => (accept_forward _).within.bind fun b => ?_
  extract_lets -underBinder jp₁ jp₁'
  refine (h.type c hc).optional b fun constraint => ?_
  unfold jp₁ jp₁'
  refine (accept_forward _).within.bind fun b' => ?_
  extract_lets -underBinder jp₂
  refine (h.type c hc).optional b' fun d => ?_
  unfold jp₂
  exact lastEnd_agree.bind fun _ => Agree.pure fun _ hs => hs

theorem typeParameters_at (h : g.AgreeBelow g' B) :
    Agree (fun s => Within B c s ∧ s.token = .lessThanToken) (fun _ => Within B (c + 8))
      (typeParameters g) (typeParameters g') := by
  unfold typeParameters
  refine isToken_bind ?_ (Agree.of_false fun _ hs => hs.2 hs.1.2)
  refine Agree.ite (fun hb => absurd hb (by decide)) fun _ => ?_
  refine (nextToken_consumes.pre fun s hs => ⟨hs.1.1, by rw [hs.2]; decide⟩).bind fun _ => ?_
  refine (delimited_agree _ (typeParameter_agree h (by omega))).bind fun _ => ?_
  exact (expect_forward _).within.bind fun _ => Agree.pure fun _ hs => hs

theorem typeParameters_skip {P : Scanner → Prop} :
    Agree (fun s => P s ∧ s.token ≠ .lessThanToken) (fun _ s => P s ∧ s.token ≠ .lessThanToken)
      (typeParameters g) (typeParameters g') := by
  unfold typeParameters
  refine isToken_bind (Agree.of_false fun _ hs => hs.1.2 hs.2) ?_
  exact Agree.ite (fun _ => Agree.pure fun _ hs => hs.1) fun hb => absurd rfl hb

theorem typeParameters_agree (h : g.AgreeBelow g' B) :
    Keeps B c (typeParameters g) (typeParameters g') :=
  Agree.byCases (fun s => s.token = .lessThanToken)
    ((typeParameters_at h).post fun _ _ hs => hs.mono (by omega))
    (typeParameters_skip.post fun _ _ hs => hs.1)

theorem parameter_agree (h : g.AgreeBelow g' B) (hc : 4 ≤ c) :
    Keeps B c (parameter g) (parameter g') := by
  unfold parameter
  refine tokenPos_agree.bind fun start => (isToken_agree _).bind fun _ => Agree.pre ?_
    fun _ hs => hs.1
  extract_lets -underBinder jp jp'
  suffices hjp : ∀ u, Keeps B c (jp u) (jp' u) by
    refine Agree.ite (fun _ => ?_) fun _ => hjp ()
    exact (reportUnsupported_agree _).bind fun _ => nextToken_forward.within.bind hjp
  intro u
  unfold jp jp'
  refine token_agree.bind fun k => Agree.pre ?_ fun _ hs => hs.1
  extract_lets -underBinder jp₁ jp₁'
  suffices hjp₁ : ∀ u, Keeps B c (jp₁ u) (jp₁' u) by
    refine Agree.ite (fun _ => ?_) fun _ => hjp₁ ()
    refine (lookAhead_same _).bind fun b => Agree.ite (fun _ => ?_) fun _ => hjp₁ ()
    exact (reportUnsupported_agree _).bind fun _ => nextToken_forward.within.bind hjp₁
  intro u
  unfold jp₁ jp₁'
  refine (accept_forward _).within.bind fun rest => (isToken_agree _).bind fun _ => Agree.pre ?_
    fun _ hs => hs.1
  extract_lets -underBinder jp₂ jp₂'
  suffices hjp₂ : ∀ name, Keeps B c (jp₂ name) (jp₂' name) by
    exact Agree.ite (fun _ => identifierName_forward.within.bind hjp₂) fun _ =>
      (h.bindingName c (by omega)).bind hjp₂
  intro name
  unfold jp₂ jp₂'
  refine (accept_forward _).within.bind fun question => (accept_forward _).within.bind fun b => ?_
  extract_lets -underBinder jp₃ jp₃'
  refine (h.type c (by omega)).optional b fun type => ?_
  unfold jp₃ jp₃'
  exact (initializer_agree h hc).bind fun init => lastEnd_agree.bind fun _ =>
    Agree.pure fun _ hs => hs

theorem parameters_agree (h : g.AgreeBelow g' B) :
    AgreeAt B .openParenToken 4 (parameters g) (parameters g') := by
  intro c
  unfold parameters
  refine (expect_agree (by decide) 4 (by omega)).bind fun _ => ?_
  refine (delimited_agree _ (parameter_agree h (by omega))).bind fun params => ?_
  exact (expect_forward _).within.bind fun _ => Agree.pure fun _ hs => hs

theorem returnType_agree (h : g.AgreeBelow g' B) (hc : 2 ≤ c) :
    Keeps B c (returnType g) (returnType g') := by
  unfold returnType
  refine tokenPos_agree.bind fun start => (isToken_agree _).bind fun _ => Agree.pre ?_
    fun _ hs => hs.1
  extract_lets -underBinder jp jp'
  suffices hjp : ∀ asserts, Keeps B c (jp asserts) (jp' asserts) by
    exact Agree.ite (fun _ => (lookAhead_same _).bind hjp) fun _ =>
      (Agree.pure fun _ hs => hs).bind hjp
  intro asserts
  unfold jp jp'
  refine isIdentifier_agree.bind fun _ => (isToken_agree _).bind fun _ => Agree.pre ?_
    fun _ hs => hs.1
  extract_lets -underBinder jp₁ jp₁'
  suffices hjp₁ : ∀ predicate, Keeps B c (jp₁ predicate) (jp₁' predicate) by
    exact Agree.ite (fun _ => (lookAhead_same _).bind hjp₁) fun _ =>
      (Agree.pure fun _ hs => hs).bind hjp₁
  intro predicate
  unfold jp₁ jp₁'
  refine Agree.ite (fun _ => h.type c hc) fun _ => ?_
  extract_lets -underBinder jp₂ jp₂'
  suffices hjp₂ : ∀ u, Keeps B c (jp₂ u) (jp₂' u) by
    exact Agree.ite (fun _ => nextToken_forward.within.bind hjp₂) fun _ => hjp₂ ()
  intro u
  unfold jp₂ jp₂'
  refine identifierName_forward.within.bind fun name => (accept_forward _).within.bind fun b => ?_
  extract_lets -underBinder jp₃
  refine (h.type c hc).optional b fun type => ?_
  unfold jp₃
  exact lastEnd_agree.bind fun _ => Agree.pure fun _ hs => hs

theorem signatureMember_agree (h : g.AgreeBelow g' B) (hc : 4 ≤ c) (kind : SignatureKind)
    (start : Nat) (mods : Modifiers) (name : Option Node) (question : Bool) :
    Keeps B c (signatureMember g kind start mods name question)
      (signatureMember g' kind start mods name question) := by
  unfold signatureMember
  refine (typeParameters_agree h).bind fun typeParams => ((parameters_agree h).within hc).bind
    fun params => (accept_forward _).within.bind fun b => ?_
  extract_lets -underBinder jp
  refine (returnType_agree h (by omega)).optional b fun type => ?_
  unfold jp
  exact lastEnd_agree.bind fun _ => Agree.pure fun _ hs => hs

theorem indexSignature_agree (h : g.AgreeBelow g' B) (hc : 2 ≤ c) (start : Nat)
    (mods : Modifiers) :
    Keeps B c (indexSignature g start mods) (indexSignature g' start mods) := by
  unfold indexSignature
  refine (expect_forward _).within.bind fun _ => tokenPos_agree.bind fun keyStart => ?_
  refine identifier_forward.within.bind fun name => (expect_forward _).within.bind fun _ => ?_
  refine (h.type c hc).bind fun keyType => lastEnd_agree.bind fun _ => ?_
  refine (expect_forward _).within.bind fun _ => (expect_forward _).within.bind fun _ => ?_
  exact (h.type c hc).bind fun type => lastEnd_agree.bind fun _ => Agree.pure fun _ hs => hs

theorem startsMemberName_agree {P : Scanner → Prop} [RestoreStable P] :
    Agree P (fun _ s => P s) startsMemberName startsMemberName :=
  lookAhead_same _

theorem startsIndexSignature_agree {P : Scanner → Prop} [RestoreStable P] :
    Agree P (fun _ s => P s) startsIndexSignature startsIndexSignature :=
  lookAhead_same _

theorem typeMember_agree (h : g.AgreeBelow g' B) (hc : 4 ≤ c) :
    Keeps B c (typeMember g) (typeMember g') := by
  unfold typeMember
  refine tokenPos_agree.bind fun start => (isToken_agree _).bind fun _ => (isToken_agree _).bind
    fun _ => Agree.pre ?_ fun _ hs => hs.1.1
  refine Agree.ite (fun _ => signatureMember_agree h hc _ _ _ _ _) fun _ => ?_
  refine (isToken_agree _).bind fun _ => Agree.pre ?_ fun _ hs => hs.1
  extract_lets -underBinder jp jp'
  suffices hjp : ∀ u, Keeps B c (jp u) (jp' u) by
    refine Agree.ite (fun _ => ?_) fun _ => hjp ()
    refine (lookAhead_same _).bind fun b => Agree.ite (fun _ => ?_) fun _ => hjp ()
    exact (reportUnsupported_agree _).bind fun _ => nextToken_forward.within.bind fun _ =>
      signatureMember_agree h hc _ _ _ _ _
  intro u
  unfold jp jp'
  refine (isToken_agree _).bind fun _ => Agree.pre ?_ fun _ hs => hs.1
  extract_lets -underBinder jp₁ jp₁'
  suffices hjp₁ : ∀ readonly, Keeps B c (jp₁ readonly) (jp₁' readonly) by
    refine Agree.ite (fun _ => (startsMemberName_agree).bind fun b => Agree.ite (fun _ => ?_)
      fun _ => (Agree.pure fun _ hs => hs).bind hjp₁) fun _ => (Agree.pure fun _ hs => hs).bind hjp₁
    exact nextToken_forward.within.bind fun _ => (Agree.pure fun _ hs => hs).bind hjp₁
  intro readonly
  unfold jp₁ jp₁'
  extract_lets -underBinder mods
  refine (isToken_agree _).bind fun _ => (isToken_agree _).bind fun _ => Agree.pre ?_
    fun _ hs => hs.1.1
  extract_lets -underBinder jp₂ jp₂'
  suffices hjp₂ : ∀ u, Keeps B c (jp₂ u) (jp₂' u) by
    refine Agree.ite (fun _ => (startsMemberName_agree).bind fun b => Agree.ite (fun _ => ?_)
      fun _ => hjp₂ ()) fun _ => hjp₂ ()
    exact (reportUnsupported_agree _).bind fun _ => nextToken_forward.within.bind hjp₂
  intro u
  unfold jp₂ jp₂'
  refine (isToken_agree _).bind fun _ => Agree.pre ?_ fun _ hs => hs.1
  extract_lets -underBinder jp₃ jp₃'
  suffices hjp₃ : ∀ u, Keeps B c (jp₃ u) (jp₃' u) by
    exact Agree.ite (fun _ => (startsIndexSignature_agree).bind fun b =>
      Agree.ite (fun _ => indexSignature_agree h (by omega) _ _) fun _ => hjp₃ ()) fun _ => hjp₃ ()
  intro u
  unfold jp₃ jp₃'
  refine (propertyName_agree h hc).bind fun name => (accept_forward _).within.bind fun question => ?_
  refine (isToken_agree _).bind fun _ => (isToken_agree _).bind fun _ => Agree.pre ?_
    fun _ hs => hs.1.1
  refine Agree.ite (fun _ => signatureMember_agree h hc _ _ _ _ _) fun _ => ?_
  refine (accept_forward _).within.bind fun b => ?_
  extract_lets -underBinder jp₄
  refine (h.type c (by omega)).optional b fun type => ?_
  unfold jp₄
  exact lastEnd_agree.bind fun _ => Agree.pure fun _ hs => hs

theorem typeMemberList_agree (h : g.AgreeBelow g' B) (hc : 4 ≤ c) :
    ∀ n acc, Keeps B c (typeMemberList g n acc) (typeMemberList g' n acc)
  | 0, _ => Agree.pure fun _ hs => hs
  | n + 1, acc => by
    unfold typeMemberList
    refine (isToken_agree _).bind fun _ => (isToken_agree _).bind fun _ => Agree.pre ?_
      fun _ hs => hs.1.1
    refine Agree.ite (fun _ => Agree.pure fun _ hs => hs) fun _ => ?_
    refine tokenPos_agree.bind fun before => (typeMember_agree h hc).bind fun member => ?_
    refine (accept_forward _).within.bind fun _ => ?_
    extract_lets -underBinder jp jp'
    suffices hjp : ∀ u, Keeps B c (jp u) (jp' u) by
      refine Agree.ite (fun _ => ?_) fun _ => hjp ()
      refine (accept_forward _).within.bind fun _ => Agree.ite (fun _ => ?_) fun _ => hjp ()
      refine (isToken_agree _).bind fun _ => lineBreakBefore_agree.bind fun _ => Agree.pre ?_
        fun _ hs => hs.1
      exact Agree.ite (fun _ => (expect_forward _).within.bind fun _ => hjp ()) fun _ => hjp ()
    intro u
    unfold jp jp'
    refine tokenPos_agree.bind fun now => ?_
    extract_lets -underBinder jp₁ jp₁'
    have hjp₁ : ∀ u, Keeps B c (jp₁ u) (jp₁' u) := fun _ => typeMemberList_agree h hc n _
    exact Agree.ite (fun _ => nextToken_forward.within.bind hjp₁) fun _ => hjp₁ ()

theorem typeMembers_agree (h : g.AgreeBelow g' B) :
    AgreeAt B .openBraceToken 4 (typeMembers g) (typeMembers g') := by
  intro c
  unfold typeMembers
  refine (expect_agree (by decide) 4 (by omega)).bind fun _ => budget_agree.bind fun n => ?_
  refine (typeMemberList_agree h (by omega) n []).bind fun members => ?_
  exact (expect_forward _).within.bind fun _ => Agree.pure fun _ hs => hs

/-! ### Types -/

theorem tupleElement_agree (h : g.AgreeBelow g' B) (hc : 2 ≤ c) :
    Keeps B c (tupleElement g) (tupleElement g') := by
  unfold tupleElement
  refine tokenPos_agree.bind fun start => (lookAhead_same _).bind fun named => ?_
  extract_lets -underBinder jp jp'
  suffices hjp : ∀ u, Keeps B c (jp u) (jp' u) by
    exact Agree.ite (fun _ => (reportUnsupported_agree _).bind hjp) fun _ => hjp ()
  intro u
  unfold jp jp'
  refine (accept_forward _).within.bind fun b => Agree.ite (fun _ => ?_) fun _ => ?_
  · exact (h.type c hc).bind fun type => lastEnd_agree.bind fun _ => Agree.pure fun _ hs => hs
  refine (h.type c hc).bind fun type => (accept_forward _).within.bind fun b => ?_
  exact Agree.ite (fun _ => lastEnd_agree.bind fun _ => Agree.pure fun _ hs => hs) fun _ =>
    Agree.pure fun _ hs => hs

theorem tupleType_agree (h : g.AgreeBelow g' B) :
    AgreeAt B .openBracketToken 2 (tupleType g) (tupleType g') := by
  intro c
  unfold tupleType
  refine tokenPos_agree.bind fun start => (expect_agree (by decide) 2 (by omega)).bind fun _ => ?_
  refine (delimited_agree _ (tupleElement_agree h (by omega))).bind fun elements => ?_
  refine (expect_forward _).within.bind fun _ => lastEnd_agree.bind fun _ => ?_
  exact Agree.pure fun _ hs => hs

theorem referenceOrMissing_agree (h : g.AgreeBelow g' B) :
    Keeps B c (referenceOrMissing g) (referenceOrMissing g') := by
  unfold referenceOrMissing
  refine isIdentifier_agree.bind fun _ => (isToken_agree _).bind fun _ => Agree.pre ?_
    fun _ hs => hs.1
  refine Agree.ite (fun _ => typeReference_agree h) fun _ => ?_
  exact (errorAtToken_agree _).bind fun _ => missingIdent_agree

theorem nonArrayType_agree (h : g.AgreeBelow g' B) :
    Keeps B c (nonArrayType g) (nonArrayType g') := by
  unfold nonArrayType
  refine tokenPos_agree.bind fun start => token_agree.bind fun k => Agree.ite (fun _ => ?_)
    fun _ => ?_
  · refine ((peekIs_agree _).bind fun b => Agree.ite (fun _ => ?_) fun _ => ?_).pre
      fun _ hs => hs.1
    · exact keywordNode_forward.within
    · exact referenceOrMissing_agree h
  split
  case h_5 | h_6 =>
    refine Agree.pre ?_ fun _ hs => hs.1
    exact keywordNode_forward.within.bind fun lit => lastEnd_agree.bind fun _ =>
      Agree.pure fun _ hs => hs
  case h_7 =>
    refine (lookAhead_same _).bind fun negative => Agree.ite (fun _ => ?_) fun _ =>
      (referenceOrMissing_agree h).pre fun _ hs => hs.1
    refine (nextToken_forward.within.pre fun _ hs => hs.1).bind fun _ => ?_
    exact literal_forward.within.bind fun operand => lastEnd_agree.bind fun _ =>
      lastEnd_agree.bind fun _ => Agree.pure fun _ hs => hs
  case h_8 | h_13 => exact (unsupportedType_forward _).within.pre fun _ hs => hs.1
  case h_9 =>
    refine (nextToken_forward.within.pre fun _ hs => hs.1).bind fun _ => (isToken_agree _).bind
      fun _ => Agree.pre ?_ fun _ hs => hs.1
    refine Agree.ite (fun _ => (unsupportedType_forward _).within) fun _ => ?_
    exact (entityName_forward true).within.bind fun name => lastEnd_agree.bind fun _ =>
      Agree.pure fun _ hs => hs
  case h_10 =>
    refine (lookAhead_same _).bind fun mapped => Agree.ite (fun _ => ?_) fun _ => ?_
    · refine ((reportUnsupported_agree _).bind fun _ => ?_).pre fun _ hs => hs.1
      exact skipToStatementEnd_forward.within.bind fun _ => missingIdent_agree
    · exact (typeMembers_agree h).at.bind fun members => lastEnd_agree.bind fun _ =>
        Agree.pure fun _ hs => hs.mono (by omega)
  case h_11 => exact (tupleType_agree h).at.post fun _ _ hs => hs.mono (by omega)
  case h_12 =>
    refine (nextToken_consumes.pre fun s hs => ⟨hs.1, by rw [hs.2]; decide⟩).bind fun _ => ?_
    refine (h.type (c + 8) (by omega)).bind fun type => (expect_forward _).within.bind fun _ => ?_
    exact lastEnd_agree.bind fun _ => Agree.pure fun _ hs => hs.mono (by omega)
  case h_14 => exact (referenceOrMissing_agree h).pre fun _ hs => hs.1
  all_goals
    refine Agree.pre ?_ fun _ hs => hs.1
    exact literal_forward.within.bind fun lit => lastEnd_agree.bind fun _ =>
      Agree.pure fun _ hs => hs

theorem postfixRest_agree (h : g.AgreeBelow g' B) (start : Nat) :
    ∀ n type, Keeps B c (postfixRest g start n type) (postfixRest g' start n type)
  | 0, _ => Agree.pure fun _ hs => hs
  | n + 1, type => by
    unfold postfixRest
    refine isToken_bind ?_ ?_
    · refine lineBreakBefore_agree.bind fun _ => Agree.ite (fun _ => ?_) fun _ =>
        Agree.pure fun _ hs => hs.1
      refine (nextToken_consumes.pre fun s hs => ⟨hs.1, by rw [hs.2]; decide⟩).bind fun _ => ?_
      refine (accept_forward _).within.bind fun b => Agree.ite (fun _ => ?_) fun _ => ?_
      · exact lastEnd_agree.bind fun _ => (postfixRest_agree h start n _).pre
          fun _ hs => hs.mono (by omega)
      · refine (h.type (c + 8) (by omega)).bind fun index => (expect_forward _).within.bind
          fun _ => ?_
        exact lastEnd_agree.bind fun _ => (postfixRest_agree h start n _).pre
          fun _ hs => hs.mono (by omega)
    · exact lineBreakBefore_agree.bind fun _ => Agree.ite (fun hb => absurd hb (by simp)) fun _ =>
        Agree.pure fun _ hs => hs.1

theorem postfixType_agree (h : g.AgreeBelow g' B) :
    Keeps B c (postfixType g) (postfixType g') := by
  unfold postfixType
  exact tokenPos_agree.bind fun start => (nonArrayType_agree h).bind fun type =>
    budget_agree.bind fun n => postfixRest_agree h start n type

theorem typeOperator_agree (h : g.AgreeBelow g' B) :
    Keeps B c (typeOperator g) (typeOperator g') := by
  unfold typeOperator
  refine tokenPos_agree.bind fun start => token_agree.bind fun k => Agree.ite (fun hk => ?_)
    fun _ => ?_
  · refine (nextToken_consumes.pre fun s hs => ⟨hs.1, fun he => ?_⟩).bind fun _ => ?_
    · rw [hs.2] at he
      subst he
      exact absurd hk (by decide)
    · exact (h.typeOperator (c + 8) (by omega)).bind fun type => lastEnd_agree.bind fun _ =>
        Agree.pure fun _ hs => hs.mono (by omega)
  refine Agree.pre ?_ fun _ hs => hs.1
  exact Agree.ite (fun _ => (unsupportedType_forward _).within) fun _ => postfixType_agree h

theorem compositeType_agree {con con' : ParserM Node} (sep : TokenKind)
    (build : Span → List Node → Node) (hcon : Keeps B c con con') :
    Keeps B c (compositeType sep build con) (compositeType sep build con') := by
  unfold compositeType
  refine tokenPos_agree.bind fun start => (accept_forward _).within.bind fun leading =>
    hcon.bind fun first => ?_
  refine (isToken_agree _).bind fun _ => Agree.ite (fun _ => Agree.pure fun _ hs => hs.1)
    fun _ => Agree.pre ?_ fun _ hs => hs.1
  exact (separated_agree _ hcon).bind fun rest => lastEnd_agree.bind fun _ =>
    Agree.pure fun _ hs => hs

theorem unionType_agree (h : g.AgreeBelow g' B) (hc : 1 ≤ c) :
    Keeps B c (unionType g) (unionType g') :=
  compositeType_agree _ _ (compositeType_agree _ _ (h.typeOperator c hc))

theorem skipParameterStart_agree (h : g.AgreeBelow g' B) (hc : 1 ≤ c) :
    Keeps B c (skipParameterStart g) (skipParameterStart g') := by
  unfold skipParameterStart
  refine isIdentifier_agree.bind fun _ => (isToken_agree _).bind fun _ => Agree.pre ?_
    fun _ hs => hs.1
  refine Agree.ite (fun _ => nextToken_forward.within.bind fun _ => Agree.pure fun _ hs => hs)
    fun _ => ?_
  refine (isToken_agree _).bind fun _ => (isToken_agree _).bind fun _ => Agree.pre ?_
    fun _ hs => hs.1.1
  refine Agree.ite (fun _ => ?_) fun _ => Agree.pure fun _ hs => hs
  refine get_agree.bind fun q => ((h.bindingName c hc).pre fun _ hs => hs.1).bind fun _ => ?_
  exact get_agree.bind fun q' => Agree.pure fun _ hs => hs.1

theorem startsFunctionType_agree (h : g.AgreeBelow g' B) (hc : 1 ≤ c) :
    Agree (Within B c)
      (fun r s => Within B c s ∧
        (r = true → s.token = .lessThanToken ∨ s.token = .openParenToken))
      (startsFunctionType g) (startsFunctionType g') := by
  unfold startsFunctionType
  refine isToken_bind (Agree.ite (fun _ => Agree.pure fun _ hs => ⟨hs.1, fun _ => .inl hs.2⟩)
    fun hb => absurd rfl hb) (Agree.ite (fun hb => absurd hb (by decide)) fun _ => ?_)
  refine isToken_bind (Agree.ite (fun hb => absurd hb (by decide)) fun _ => ?_)
    (Agree.ite (fun _ => Agree.pure fun _ hs => ⟨hs.1.1, fun hf => absurd hf (by decide)⟩)
      fun hb => absurd rfl hb)
  refine (lookAhead_agree ((?_ : Keeps B c _ _).pre fun _ hs => hs.1.1)).post
    fun _ _ hs => ⟨hs.1.1, fun _ => .inr hs.2⟩
  refine nextToken_forward.within.bind fun _ => (isToken_agree _).bind fun _ =>
    (isToken_agree _).bind fun _ => Agree.pre ?_ fun _ hs => hs.1.1
  refine Agree.ite (fun _ => Agree.pure fun _ hs => hs) fun _ => ?_
  refine (skipParameterStart_agree h hc).bind fun ok => Agree.ite (fun _ => Agree.pure fun _ hs => hs)
    fun _ => ?_
  refine token_agree.bind fun k => Agree.pre ?_ fun _ hs => hs.1
  split
  case h_5 => exact (nextIs_forward _).within
  all_goals exact Agree.pure fun _ hs => hs

theorem functionType_agree (h : g.AgreeBelow g' B) :
    Agree (fun s => Within B c s ∧ (s.token = .lessThanToken ∨ s.token = .openParenToken))
      (fun _ => Within B c) (functionType g) (functionType g') := by
  unfold functionType
  refine tokenPos_agree.bind fun start => ?_
  refine Agree.bind (Q := fun _ s => Within B (c + 8) s ∨
    (Within B c s ∧ s.token = .openParenToken)) ?_ fun typeParams => ?_
  · refine Agree.byCases (fun s => s.token = .lessThanToken) ?_ ?_
    · exact ((typeParameters_at h).pre fun _ hs => ⟨hs.1.1, hs.2⟩).post fun _ _ hs => .inl hs
    · refine (typeParameters_skip (P := fun s => Within B c s ∧ s.token = .openParenToken)).mono
        (fun _ hs => ⟨⟨hs.1.1, hs.1.2.resolve_left hs.2⟩, hs.2⟩) fun _ _ hs => .inr hs.1
  refine ((parameters_agree h c).pre fun s hs => ?_).bind fun params => ?_
  · rcases hs with hs | ⟨hs, ht⟩
    · exact hs.mono (by split <;> omega)
    · simpa [ht] using hs
  refine (expect_forward _).within.bind fun _ => (returnType_agree h (by omega)).bind
    fun result => lastEnd_agree.bind fun _ => Agree.pure fun _ hs => hs.mono (by omega)

theorem typeBody_agree (h : g.AgreeBelow g' B) (hc : 1 ≤ c) :
    Keeps B c (typeBody g) (typeBody g') := by
  unfold typeBody
  refine (startsFunctionType_agree h hc).bind fun b => Agree.ite (fun hb => ?_) fun _ => ?_
  · exact (functionType_agree h).pre fun _ hs => ⟨hs.1, hs.2 hb⟩
  refine (isToken_agree _).bind fun _ => Agree.pre ?_ fun _ hs => hs.1.1
  refine Agree.ite (fun _ => (unsupportedType_forward _).within) fun _ => ?_
  refine (unionType_agree h hc).bind fun type => isToken_bind ?_ ?_
  · refine lineBreakBefore_agree.bind fun _ => ?_
    extract_lets -underBinder jp
    refine Agree.ite (fun _ => ?_) fun _ => Agree.pure fun _ hs => hs.1
    refine (reportUnsupported_agree _).bind fun _ => ?_
    refine (nextToken_consumes.pre fun s hs => ⟨hs.1, by rw [hs.2]; decide⟩).bind fun _ =>
      Agree.post (Q := fun _ => Within B (c + 8)) ?_ fun _ _ hs => hs.mono (by omega)
    have hjp : ∀ u, Keeps B (c + 8) (jp u) (jp u) := fun _ => Agree.pure fun _ hs => hs
    refine (unionType_agree h (by omega)).bind fun _ => (accept_forward _).within.bind fun b =>
      Agree.ite (fun _ => ?_) fun _ => hjp ()
    refine (h.type _ (by omega)).bind fun _ => (accept_forward _).within.bind fun b =>
      Agree.ite (fun _ => ?_) fun _ => hjp ()
    exact (h.type _ (by omega)).bind fun _ => hjp ()
  · exact lineBreakBefore_agree.bind fun _ => Agree.ite (fun hb => absurd hb (by simp)) fun _ =>
      Agree.pure fun _ hs => hs.1

theorem typeNode_agree (h : g.AgreeBelow g' B) (hc : 1 ≤ c) :
    Keeps B c (typeNode g) (typeNode g') :=
  guarded_agree missingIdent_agree (typeBody_agree h hc)

end Parser

end ParamNarrow
