import ParamNarrow.Proofs.Tree.Types
/-!
# Expressions read well formed, with their operators in order

From a sound grammar (`Grammar.Sound`) every expression rule reads well-formed nodes. The binary
operator loop `binaryRest` carries the precedence facts: each operator node it builds has an
operator that binds at the loop's level (`Above`), a left operand whose operator binds at least as
tightly, and a right operand read one level up, so its operator binds tighter or is a second
`**`. The loop returns only at an operator that does not go on (`Stops`): its rounds never run
out, since each consumes an operator token and the text is shorter than the rounds it is given.
-/

namespace ParamNarrow

namespace Scanner

theorem rescanGreater_of_ne {s : Scanner} (h : s.token ≠ .greaterThanToken) : s.rescanGreater = s := by
  unfold rescanGreater
  simp [h]

theorem rescanGreater_eq_self {s : Scanner} (h : s.rescanGreater.token = .greaterThanToken) :
    s.rescanGreater = s := by
  revert h
  unfold rescanGreater
  extract_lets at0 at1 at2
  repeat' split
  all_goals first | exact fun _ => rfl | simp

theorem rescanGreater_rescanGreater (s : Scanner) : s.rescanGreater.rescanGreater = s.rescanGreater := by
  by_cases h : s.rescanGreater.token = .greaterThanToken
  · rw [rescanGreater_eq_self h, rescanGreater_eq_self h]
  · exact rescanGreater_of_ne h

end Scanner

namespace Parser

/-! ### Precedence -/

theorem binaryPrecedence_of_ne_zero {k : TokenKind} {d : Bool} (h : binaryPrecedence k d ≠ 0) :
    binaryPrecedence k d = Node.operatorPrecedence k := by
  unfold Node.operatorPrecedence
  cases d
  · rfl
  · unfold binaryPrecedence at h ⊢
    split <;> simp_all

theorem operatorPrecedence_eq_fifteen {k : TokenKind} (h : Node.operatorPrecedence k = 15) :
    k = .asteriskAsteriskToken := by
  unfold Node.operatorPrecedence binaryPrecedence at h
  split at h <;> simp_all

theorem operatorPrecedence_le_fifteen (k : TokenKind) : Node.operatorPrecedence k ≤ 15 := by
  unfold Node.operatorPrecedence binaryPrecedence
  split <;> simp

theorem operatorPrecedence_of_isAssignment {k : TokenKind} (h : k.isAssignment = true) :
    Node.operatorPrecedence k = 0 := by
  revert h
  cases k <;> decide

theorem ne_eof_of_binaryPrecedence {k : TokenKind} {d : Bool} (h : binaryPrecedence k d ≠ 0) :
    k ≠ .endOfFileToken := by
  rintro rfl
  exact h rfl

/-- The loop's test that an operator goes on at `minPrec` is `Binds`. -/
theorem binds_iff {op : TokenKind} {d : Bool} {minPrec : Nat} (h : binaryPrecedence op d ≠ 0) :
    (if (op == .asteriskAsteriskToken) = true then binaryPrecedence op d ≥ minPrec
      else binaryPrecedence op d > minPrec) ↔ Binds minPrec op := by
  rw [binaryPrecedence_of_ne_zero h]
  unfold Binds
  by_cases hop : op = .asteriskAsteriskToken <;> simp [hop]

theorem operatorPrecedence_le_of_not_binds {k : Nat} {op : TokenKind} (h : ¬Binds k op) :
    Node.operatorPrecedence op ≤ k := by
  unfold Binds at h
  split at h <;> omega

theorem Binds.lt_or_pow {op rop : TokenKind} (h : Binds (Node.operatorPrecedence op) rop) :
    Node.operatorPrecedence op < Node.operatorPrecedence rop ∨
      op = .asteriskAsteriskToken ∧ rop = .asteriskAsteriskToken := by
  unfold Binds at h
  split at h
  · next hr =>
    rcases Nat.lt_or_ge (Node.operatorPrecedence op) 15 with hlt | hge
    · exact .inl (hr ▸ hlt)
    · exact .inr ⟨operatorPrecedence_eq_fifteen
        (Nat.le_antisymm (operatorPrecedence_le_fifteen _) hge), hr⟩
  · exact .inl h

theorem Stops.operatorPrecedence_le {k : Nat} {p : Parser} (h : Stops k p)
    (hfix : p.scanner.rescanGreater = p.scanner)
    (hnz : binaryPrecedence p.scanner.token p.context.disallowIn ≠ 0)
    (hop : ¬(p.scanner.token = .asKeyword ∨ p.scanner.token = .satisfiesKeyword)) :
    Node.operatorPrecedence p.scanner.token ≤ k := by
  unfold Stops at h
  rw [hfix] at h
  rcases h with h | h | h | h
  · exact absurd h hnz
  · exact operatorPrecedence_le_of_not_binds h
  · exact absurd (.inl h) hop
  · exact absurd (.inr h) hop

theorem Stops.rescanGreater {k : Nat} {p : Parser} (h : Stops k p) :
    Stops k { p with scanner := p.scanner.rescanGreater } := by
  unfold Stops at h ⊢
  dsimp only
  rw [Scanner.rescanGreater_rescanGreater]
  exact h

/-! ### Leaves -/

/-- A node read by a step that is no operator node: an operand as it stands. -/
abbrev ReadsOperand (p : Parser) (n : Node) (q : Parser) : Prop :=
  Reads p n q ∧ n.operator? = none

theorem identifier_operator : Spec identifier fun _ r _ => r.operator? = none := by
  intro p hp
  unfold identifier
  simp only [runs_isIdentifier]
  split
  · unfold identFromToken
    simp only [runs_get]
    exact (nextToken_spec p hp).bind fun _ q hq _ => Runs.pure hq fun _ _ => rfl
  · refine (errorAtToken_spec _ p hp).bind fun _ q hq _ => ?_
    unfold missingIdent
    simp only [runs_tokenPos]
    exact Runs.pure hq fun _ _ => rfl

theorem literal_operator : Spec literal fun _ r _ => r.operator? = none := by
  intro p hp
  unfold literal
  simp only [runs_get]
  exact (nextToken_spec p hp).bind fun _ q hq _ => Runs.pure hq fun _ _ => rfl

theorem identifier_operand : Spec identifier ReadsOperand :=
  fun p hp => ((identifier_spec p hp).and (identifier_operator p hp)).mono fun _ _ h => h

theorem literal_operand :
    Spec literal fun p n q => p.scanner.token ≠ .endOfFileToken → ReadsOperand p n q :=
  fun p hp => ((literal_spec p hp).and (literal_operator p hp)).mono
    fun _ _ ⟨hn, hop⟩ hne => ⟨hn hne, hop⟩

theorem keywordNode_operand :
    Spec keywordNode fun p n q => p.scanner.token ≠ .endOfFileToken → ReadsOperand p n q :=
  fun p hp => (keywordNode_spec p hp).mono fun _ _ ⟨hn, hread⟩ hne => ⟨hread hne, hn ▸ rfl⟩

variable {g : Grammar}

/-! ### Functions -/

section Functions

variable (h : g.Sound)
include h

theorem functionLikeRest_spec (kind : FunctionKind) (start : Nat) (mods : Modifiers)
    (asterisk : Bool) (name : Option Node) (bodyOptional : Bool) :
    Spec (functionLikeRest g kind start mods asterisk name bodyOptional) fun q n r =>
      Built start name.toList q → Node.Read start n r.prevEnd ∧ n.operator? = none := by
  refine withContext_spec _ ?_ fun _ _ _ _ _ hn hb => hn (hb.congr rfl rfl)
  intro q hq
  refine (typeParameters_spec h q hq).bind fun tps r hr h₁ => ?_
  refine (parameters_spec h r hr).bind fun ⟨params, trailing⟩ s hs h₂ => ?_
  refine (accept_spec (by decide) s hs).bind fun _ t ht h₃ => ?_
  refine Runs.optional ht (returnType_spec h) fun result u hu h₄ => ?_
  simp -zeta only [runs_isToken]
  extract_lets jp
  have hjp : ∀ body v, Sane v → Follows u v → Runs v (jp body) fun n w =>
      (∀ x ∈ body, Reads u x v) → Built start (name.toList ++ Node.optList tps ++ params ++ result.toList) u →
        start < u.prevEnd → Node.Read start n w.prevEnd ∧ n.operator? = none := by
    intro body v hv h₅
    simp only [jp, runs_lastEnd]
    exact Runs.pure hv fun _ hbody hb hlt =>
      ⟨(hb.opt hu hbody h₅).node rfl rfl rfl (hlt.trans_le h₅.prevEnd_le) trivial trivial, rfl⟩
  refine Runs.mono (Q := fun n w => Built start (name.toList ++ Node.optList tps ++ params ++
      result.toList) u → start < u.prevEnd → Node.Read start n w.prevEnd ∧ n.operator? = none) ?_
    fun _ _ hn hres _ ⟨hps, hlt⟩ htps hb => ?_
  · split
    · refine (h.block u hu).some_map.bind fun body v hv h₅ => ?_
      exact hjp body v hv h₅
    split
    · refine (semicolon_spec u hu).bind fun _ v hv h₅ => ?_
      simp only [runs_pure_bind]
      exact (hjp none v hv h₅).mono fun _ _ hn _ => hn fun _ hx => nomatch hx
    · refine (expect_spec (by decide) u hu).bind fun _ v hv h₅ => ?_
      simp only [runs_pure_bind]
      exact (hjp none v hv h₅).mono fun _ _ hn _ => hn fun _ hx => nomatch hx
  · have hb' := ((((hb.add hq (Node.ReadAll.optList htps) h₁).add hr hps h₂).skip h₃).opt ht
      hres h₄)
    exact hn hb' ((hb.skip h₁).start_le.trans_lt hlt |>.trans_le (h₃.trans h₄).prevEnd_le)

theorem functionExpression_spec (start : Nat) (mods : Modifiers) :
    Spec (functionExpression g start mods) fun q n r =>
      start ≤ q.scanner.tokenStart → Node.Read start n r.prevEnd ∧ n.operator? = none := by
  intro q hq
  unfold functionExpression
  refine (expect_spec (by decide) q hq).bind fun _ r hr h₁ => ?_
  refine (accept_spec (by decide) r hr).bind fun asterisk s hs h₂ => ?_
  simp only [runs_isIdentifier]
  refine Runs.optional hs identifier_spec fun name t ht h₃ => ?_
  exact (functionLikeRest_spec h _ _ _ _ _ _ t ht).mono fun _ _ hn hname _ _ hst =>
    hn (((Built.of_le hst).skip (h₁.trans h₂)).opt hs hname h₃)

/-- The parameters, type parameters and return type of an arrow function's head. -/
abbrev ArrowHead.nodes (head : ArrowHead) : List Node :=
  Node.optList head.typeParams ++ head.params ++ head.result.toList

theorem arrowHead_spec : Spec (arrowHead g) fun p r q => ∀ head ∈ r,
    ReadsAll p head.nodes q ∧ p.scanner.tokenStart < q.prevEnd := by
  intro p hp
  unfold arrowHead
  simp -zeta only [runs_isToken]
  refine (peekIs_spec _ p hp).bind fun b q hq h₁ => ?_
  extract_lets jpHead jpAsync
  have hHead : ∀ o r, Sane r → Follows p r → Runs r (jpHead o) fun res s =>
      (∀ head ∈ o, ReadsAll p head.nodes r) →
        ∀ head ∈ res, ReadsAll p head.nodes s ∧ p.scanner.tokenStart < s.prevEnd := by
    intro o r hr h₂
    simp only [jpHead]
    split
    · simp only [runs_isToken, runs_lineBreakBefore]
      split
      · exact Runs.pure hr fun _ _ _ hx => nomatch hx
      · next hgt =>
        have htok : r.scanner.token ≠ .endOfFileToken := by
          intro he
          rw [he] at hgt
          simp at hgt
        exact (nextToken_spec r hr).bind fun _ s hs h₃ => Runs.pure hs
          fun _ ⟨_, hadv⟩ hnodes _ hh => Option.some.inj hh ▸
            ⟨(hnodes _ rfl).later h₃, h₂.tokenStart_le.trans_lt (hadv htok)⟩
    · exact Runs.pure hr fun _ _ _ hx => nomatch hx
  have hAsync : ∀ async r, Sane r → Follows p r → Runs r (jpAsync async) fun res s =>
      ∀ head ∈ res, ReadsAll p head.nodes s ∧ p.scanner.tokenStart < s.prevEnd := by
    intro async r hr h₂
    simp only [jpAsync, runs_isIdentifier]
    split
    · simp only [runs_tokenPos]
      refine (identifier_spec r hr).bind fun name s hs h₃ => ?_
      simp only [runs_lastEnd, runs_pure_bind]
      have := hHead (some (ArrowHead.mk async none
        [Node.parameter ⟨r.scanner.tokenStart, s.prevEnd⟩ false name false none none] false none
        true)) s hs (h₂.trans h₃)
      refine this.mono ?_
      intro _ _ hn hname
      refine hn fun _ hh => ?_
      cases hh
      exact (((Built.begin r).read hr hname h₃).node
        (n := .parameter ⟨r.scanner.tokenStart, s.prevEnd⟩ false name false none none) rfl rfl rfl
        ((Built.begin r).lt_of_read hname) trivial trivial).all.mono h₂.tokenStart_le (Nat.le_refl _)
    · refine (withContext_spec _
        (Q := fun r (o : Option ArrowHead) s => ∀ head ∈ o, ReadsAll r head.nodes s) ?_
        (fun _ _ _ _ _ h => h) r hr).bind fun head s hs h₃ => ?_
      · intro r hr
        refine (typeParameters_spec h r hr).bind fun tps s hs h₃ => ?_
        simp only [runs_isToken]
        split
        · exact Runs.pure hs fun _ _ _ hx => nomatch hx
        refine (parameters_spec h s hs).bind fun ps t ht h₄ => ?_
        refine (accept_spec (by decide) t ht).bind fun _ u hu h₅ => ?_
        refine Runs.optional hu (returnType_spec h) fun result v hv h₆ => ?_
        refine Runs.pure hv fun _ hres _ ⟨hps, _⟩ htps head hh => ?_
        cases hh
        exact ((((Built.begin r).add hr (Node.ReadAll.optList htps) h₃).add hs hps h₄).skip h₅
          |>.opt hu hres h₆).kids
      · exact (hHead head s hs (h₂.trans h₃)).mono fun _ _ hn hh =>
          hn fun x hx => (hh x hx).mono h₂.tokenStart_le (Nat.le_refl _)
  split
  · refine (nextToken_spec q hq).bind fun _ r hr h₂ => ?_
    simp only [runs_pure_bind]
    exact (hAsync true r hr (h₁.trans h₂)).mono fun _ _ hn _ _ => hn
  · simp only [runs_pure_bind]
    exact (hAsync false q hq h₁).mono fun _ _ hn _ => hn

omit h in
theorem mayStartArrow_spec : Spec mayStartArrow fun _ _ _ => True := by
  intro p hp
  unfold mayStartArrow
  simp only [runs_token]
  split
  · exact Runs.pure hp fun _ => trivial
  · exact Runs.pure hp fun _ => trivial
  · exact lookAhead_moves (nextToken_moves.bind fun _ => (Moves.read fun _ => rfl).bind fun _ =>
      Spec.ite (Moves.pure _) (Moves.read fun _ => rfl)) p hp
  · simp only [runs_isIdentifier]
    split
    · exact (peekIs_spec _ p hp).mono fun _ _ _ => trivial
    · exact Runs.pure hp fun _ => trivial

theorem arrowFunction_spec : Spec (arrowFunction g) fun p r q => ∀ n ∈ r, Reads p n q := by
  intro p hp
  unfold arrowFunction
  refine (mayStartArrow_spec p hp).bind fun b q hq h₁ => ?_
  split
  · exact Runs.pure hq fun _ _ _ hx => nomatch hx
  simp only [runs_tokenPos]
  refine (tryParse_spec (arrowHead_spec h) q hq).bind fun o r hr h₂ => ?_
  split
  · next head =>
    refine (withContext_spec _ (Q := fun r n s => Reads r n s) ?_ (fun _ _ _ _ _ h => h) r
      hr).bind fun body s hs h₃ => ?_
    · intro r hr
      simp only [runs_isToken]
      split
      · exact h.block r hr
      · exact h.assignment r hr
    simp only [runs_lastEnd]
    refine Runs.pure hs fun _ hbody hhead _ n hn => ?_
    obtain hnone | hread := hhead
    · exact nomatch hnone
    obtain ⟨hnodes, hlt⟩ := hread head rfl
    cases hn
    refine Reads.since ?_ h₁
    exact (((Built.begin q).add hq hnodes h₂).read hr hbody h₃).node rfl rfl rfl
      (hlt.trans_le h₃.prevEnd_le) trivial trivial
  · exact Runs.pure hr fun _ _ _ _ hx => nomatch hx

end Functions

/-! ### Literals -/

section Literals

variable (h : g.Sound)
include h

theorem spreadOrAssignment_spec : Spec (spreadOrAssignment g) Reads := by
  intro p hp
  unfold spreadOrAssignment
  simp only [runs_isToken]
  split
  · exact h.assignment p hp
  simp only [runs_tokenPos]
  refine (nextToken_spec p hp).bind fun _ q hq h₁ => ?_
  refine (h.assignment q hq).bind fun e r hr h₂ => ?_
  simp only [runs_lastEnd]
  exact Runs.pure hr fun _ he _ => (((Built.begin p).skip h₁).read hq he h₂).node rfl rfl rfl
    (((Built.begin p).skip h₁).lt_of_read he) trivial trivial

theorem templateSpans_spec (start : Nat) (pre : List Node) :
    ∀ (n : Nat) (acc : List Node) (p : Parser), Sane p →
    Runs p (templateSpans g n acc) fun r q => Built start (pre ++ acc.reverse) p → Built start (pre ++ r) q
  | 0, acc, p, hp => Runs.pure hp fun _ hb => hb
  | n + 1, acc, p, hp => by
    unfold templateSpans
    simp only [runs_tokenPos]
    refine (h.expression p hp).bind fun e q hq h₁ => ?_
    simp only [runs_isToken]
    split
    · exact (errorAtToken_spec _ q hq).bind fun _ r hr _ => Runs.pure hr fun _ h _ _ => h.elim
    next hbrace =>
    refine (rescanTemplate_spec q hq).bind fun _ r hr h₂ => ?_
    simp only [runs_token]
    refine (literal_spec r hr).bind fun text s hs h₃ => ?_
    simp only [runs_lastEnd]
    have hgrow : Reads r text s → r.prevEnd = q.prevEnd ∧ r.scanner.tokenStart = q.scanner.tokenStart ∧
        (q.scanner.token ≠ .endOfFileToken → r.scanner.token ≠ .endOfFileToken) → Reads p e q →
        Built start (pre ++ acc.reverse) p →
        Built start (pre ++ (Node.templateSpan ⟨p.scanner.tokenStart, s.prevEnd⟩ e text :: acc).reverse) s := by
      intro htext _ he hb
      rw [List.reverse_cons, ← List.append_assoc]
      exact hb.read hp ((((Built.begin p).read hp he h₁).skip h₂).read hr htext h₃ |>.node rfl rfl
        rfl ((Built.begin p).lt_of_read he |>.trans_le (h₂.trans h₃).prevEnd_le) trivial trivial)
        ((h₁.trans h₂).trans h₃)
    have hne : q.scanner.token ≠ .endOfFileToken := by
      intro heof
      rw [heof] at hbrace
      simp at hbrace
    split
    · exact Runs.pure hs fun _ htext hrs he hb => hgrow (htext (hrs.2.2 hne)) hrs he hb
    · exact (templateSpans_spec start pre n _ s hs).mono fun _ _ hl htext hrs he hb =>
        hl (hgrow (htext (hrs.2.2 hne)) hrs he hb)

theorem templateExpression_spec : Spec (templateExpression g) fun p n q =>
    p.scanner.token ≠ .endOfFileToken → ReadsOperand p n q := by
  intro p hp
  unfold templateExpression
  simp only [runs_tokenPos]
  refine (literal_spec p hp).bind fun head q hq h₁ => ?_
  simp only [runs_budget]
  refine (templateSpans_spec h p.scanner.tokenStart [head] _ [] q hq).bind fun spans r hr h₂ => ?_
  simp only [runs_lastEnd]
  exact Runs.pure hr fun _ hspans hhead hne =>
    ⟨(hspans ((Built.begin p).read hp (hhead hne) h₁)).node rfl rfl rfl
      ((Built.begin p).lt_of_read (hhead hne) |>.trans_le h₂.prevEnd_le) trivial trivial, rfl⟩

theorem arrayElements_spec (start : Nat) : ∀ (n : Nat) (acc : List Node) (p : Parser), Sane p →
    Runs p (arrayElements g n acc) fun r q => Built start acc.reverse p → Built start r q
  | 0, acc, p, hp => Runs.pure hp fun _ hb => hb
  | n + 1, acc, p, hp => by
    unfold arrayElements
    simp only [runs_isToken]
    split
    · exact Runs.pure hp fun _ hb => hb
    simp only [runs_isToken]
    split
    · next htok =>
      simp only [runs_tokenPos]
      refine (nextToken_spec p hp).bind fun _ q hq h₁ => ?_
      refine (arrayElements_spec start n _ q hq).mono fun _ _ hl ⟨_, hadv⟩ hb => hl ?_
      rw [List.reverse_cons]
      exact hb.omitted hp h₁ (hadv (by simp_all)).le
    · refine (spreadOrAssignment_spec h p hp).bind fun e q hq h₁ => ?_
      refine (accept_spec (by decide) q hq).bind fun b r hr h₂ => ?_
      have hgrow : Reads p e q → Built start acc.reverse p → Built start (e :: acc).reverse r :=
        fun he hb => by
          rw [List.reverse_cons]
          exact (hb.read hp he h₁).skip h₂
      split
      · exact (arrayElements_spec start n _ r hr).mono fun _ _ hl _ he hb => hl (hgrow he hb)
      · exact Runs.pure hr fun _ _ he hb => hgrow he hb

theorem arrayLiteral_spec : Spec (arrayLiteral g) ReadsOperand := by
  intro p hp
  unfold arrayLiteral
  simp only [runs_tokenPos]
  refine (expect_spec (by decide) p hp).bind fun _ q hq h₁ => ?_
  simp only [runs_budget]
  have hel : Spec (arrayElements g (q.scanner.size + 2) []) fun q₀ r q' =>
      Built p.scanner.tokenStart [] q₀ → Built p.scanner.tokenStart r q' :=
    arrayElements_spec h _ _ []
  refine (allowIn_spec hel (fun _ _ _ _ _ hl hb => (hl (hb.congr rfl rfl)).congr rfl rfl) q hq).bind
    fun elements r hr h₂ => ?_
  refine (expect_spec (by decide) r hr).bind fun _ s hs h₃ => ?_
  simp only [runs_lastEnd]
  refine (spansLines_spec _ _ s hs).bind fun _ t ht h₄ => ?_
  exact Runs.pure ht fun _ hst _ hel ⟨_, _, hadv⟩ => by
    subst hst
    exact ⟨((hel ((Built.begin p).skip h₁)).skip h₃).node rfl rfl rfl
      (hadv.trans_le (h₂.trans h₃).prevEnd_le) trivial trivial, rfl⟩

omit h in
theorem memberPrefix_spec : Spec memberPrefix fun _ _ _ => True := by
  intro p hp
  unfold memberPrefix
  simp only [runs_token]
  split
  · refine (startsMemberName_spec p hp).bind fun _ q hq _ => ?_
    split
    · refine (nextToken_spec q hq).bind fun _ r hr _ => ?_
      split
      · exact Runs.pure hr fun _ _ _ => trivial
      split
      · exact Runs.pure hr fun _ _ _ => trivial
      · exact Runs.pure hr fun _ _ _ => trivial
    · exact Runs.pure hq fun _ _ => trivial
  · exact Runs.pure hp fun _ => trivial

theorem objectLiteralElement_spec : Spec (objectLiteralElement g) Reads := by
  intro p hp
  unfold objectLiteralElement
  simp only [runs_tokenPos]
  refine (accept_spec (by decide) p hp).bind fun b q hq h₁ => ?_
  split
  · refine (h.assignment q hq).bind fun e r hr h₂ => ?_
    simp only [runs_lastEnd]
    exact Runs.pure hr fun _ he hdot => (((Built.begin p).skip h₁).read hq he h₂).node rfl rfl rfl
      (((Built.begin p).skip h₁).lt_of_read he) trivial trivial
  refine (memberPrefix_spec q hq).bind fun ⟨async, accessor⟩ r hr h₂ => ?_
  refine Runs.ite_bind (Q := fun _ _ => True) ((accept_spec (by decide) r hr).mono fun _ _ _ => trivial)
    (Runs.pure hr fun _ => trivial) fun asterisk s hs h₃ => ?_
  simp only [runs_isIdentifier]
  refine (propertyName_spec h s hs).bind fun name t ht h₄ => ?_
  have hs₀ : Built p.scanner.tokenStart [] s := Built.of_le ((h₁.trans h₂).trans h₃).tokenStart_le
  have hb : Reads s name t → Built p.scanner.tokenStart [name] t := fun hname => hs₀.read hs hname h₄
  split
  · exact (functionLikeRest_spec h _ _ _ _ _ _ t ht).mono fun _ _ hn hname _ _ _ => (hn (hb hname)).1
  simp only [runs_isToken]
  split
  · exact (functionLikeRest_spec h _ _ _ _ _ _ t ht).mono fun _ _ hn hname _ _ _ => (hn (hb hname)).1
  split
  · simp only [runs_isToken]
    split
    · refine (accept_spec (by decide) t ht).bind fun _ u hu h₅ => ?_
      refine Runs.optional hu (h.assignment) fun init v hv h₆ => ?_
      simp only [runs_lastEnd]
      exact Runs.pure hv fun _ hinit _ hname _ _ _ => (((hb hname).skip h₅).opt hu hinit h₆).node
        rfl rfl rfl (hs₀.lt_of_read hname |>.trans_le
          (h₅.trans h₆).prevEnd_le) trivial trivial
    · refine (expect_spec (by decide) t ht).bind fun _ u hu h₅ => ?_
      refine (h.assignment u hu).bind fun init v hv h₆ => ?_
      simp only [runs_lastEnd]
      exact Runs.pure hv fun _ hinit _ hname _ _ _ => (((hb hname).skip h₅).read hu hinit h₆).node
        rfl rfl rfl (hs₀.lt_of_read hname |>.trans_le
          (h₅.trans h₆).prevEnd_le) trivial trivial
  · refine (expect_spec (by decide) t ht).bind fun _ u hu h₅ => ?_
    refine (h.assignment u hu).bind fun init v hv h₆ => ?_
    simp only [runs_lastEnd]
    exact Runs.pure hv fun _ hinit _ hname _ _ _ => (((hb hname).skip h₅).read hu hinit h₆).node
      rfl rfl rfl (hs₀.lt_of_read hname |>.trans_le
        (h₅.trans h₆).prevEnd_le) trivial trivial

theorem objectLiteral_spec : Spec (objectLiteral g) ReadsOperand := by
  intro p hp
  unfold objectLiteral
  simp only [runs_tokenPos]
  refine (expect_spec (by decide) p hp).bind fun _ q hq h₁ => ?_
  have hel : Spec (delimited .closeBraceToken (objectLiteralElement g)) fun p r q =>
      ReadsAll p r.1 q := delimited_spec (objectLiteralElement_spec h)
  refine (allowIn_spec hel (fun _ _ _ _ _ hl => hl) q hq).bind fun ⟨elements, _⟩ r hr h₂ => ?_
  refine (expect_spec (by decide) r hr).bind fun _ s hs h₃ => ?_
  simp only [runs_lastEnd]
  refine (spansLines_spec _ _ s hs).bind fun _ t ht h₄ => ?_
  exact Runs.pure ht fun _ hst _ hel ⟨_, _, hadv⟩ => by
    subst hst
    exact ⟨((((Built.begin p).skip h₁).add hq hel h₂).skip h₃).node rfl rfl rfl
      (hadv.trans_le (h₂.trans h₃).prevEnd_le) trivial trivial, rfl⟩

end Literals

/-! ### Primary and member expressions -/

section Members

variable (h : g.Sound)
include h

omit h in
theorem identifierOrMissing_spec : Spec (do
    if ← isIdentifier then identifier
    else
      errorAtToken .expressionExpected
      missingIdent) ReadsOperand := by
  intro p hp
  simp only [runs_isIdentifier]
  split
  · exact identifier_operand p hp
  · exact (errorAtToken_spec _ p hp).bind fun _ q hq _ =>
      (missingIdent_spec q hq).mono fun _ _ _ h => h.elim

theorem primary_spec : Spec (primary g) ReadsOperand := by
  intro p hp
  unfold primary
  simp only [runs_tokenPos, runs_token]
  split
  · rename_i htok; exact (literal_operand p hp).mono fun _ _ hn => hn (by simp [htok])
  · rename_i htok; exact (literal_operand p hp).mono fun _ _ hn => hn (by simp [htok])
  · rename_i htok; exact (literal_operand p hp).mono fun _ _ hn => hn (by simp [htok])
  · rename_i htok; exact (literal_operand p hp).mono fun _ _ hn => hn (by simp [htok])
  · rename_i htok; exact (templateExpression_spec h p hp).mono fun _ _ hn => hn (by simp [htok])
  · rename_i htok; exact (keywordNode_operand p hp).mono fun _ _ hn => hn (by simp [htok])
  · rename_i htok; exact (keywordNode_operand p hp).mono fun _ _ hn => hn (by simp [htok])
  · rename_i htok; exact (keywordNode_operand p hp).mono fun _ _ hn => hn (by simp [htok])
  · rename_i htok; exact (keywordNode_operand p hp).mono fun _ _ hn => hn (by simp [htok])
  · rename_i htok; exact (keywordNode_operand p hp).mono fun _ _ hn => hn (by simp [htok])
  · rename_i htok; exact (keywordNode_operand p hp).mono fun _ _ hn => hn (by simp [htok])
  · refine (nextToken_spec p hp).bind fun _ q hq h₁ => ?_
    refine (allowIn_spec h.expression (fun _ _ _ _ _ hn => hn) q hq).bind fun e r hr h₂ => ?_
    refine (expect_spec (by decide) r hr).bind fun _ s hs h₃ => ?_
    simp only [runs_lastEnd]
    exact Runs.pure hs fun _ _ he _ => ⟨((((Built.begin p).skip h₁).read hq he h₂).skip h₃).node
      rfl rfl rfl (((Built.begin p).skip h₁).lt_of_read he |>.trans_le h₃.prevEnd_le) trivial
      trivial, rfl⟩
  · exact arrayLiteral_spec h p hp
  · exact objectLiteral_spec h p hp
  · exact (functionExpression_spec h _ _ p hp).mono fun _ _ hn => hn le_rfl
  · exact (unsupportedDeclaration_spec _ p hp).mono fun _ _ h => h.elim
  · rename_i htok
    refine (rescanSlash_spec p hp).bind fun _ q hq h₁ => ?_
    exact (literal_operand q hq).mono fun _ _ hn ⟨_, _, hne⟩ =>
      have hn := hn (hne (by simp [htok]))
      ⟨hn.1.since h₁, hn.2⟩
  · rename_i htok
    refine (rescanSlash_spec p hp).bind fun _ q hq h₁ => ?_
    exact (literal_operand q hq).mono fun _ _ hn ⟨_, _, hne⟩ =>
      have hn := hn (hne (by simp [htok]))
      ⟨hn.1.since h₁, hn.2⟩
  · exact (reportUnsupported_spec _ p hp).bind fun _ q hq _ => (nextToken_spec q hq).bind
      fun _ r hr _ => (missingIdent_spec r hr).mono fun _ _ _ _ h => h.elim
  · split
    · refine (lookAhead_next_moves (fun _ => rfl) p hp).bind
        fun b q hq h₁ => ?_
      split
      · refine (nextToken_spec q hq).bind fun _ r hr h₂ => ?_
        exact (functionExpression_spec h _ _ r hr).mono fun _ _ hn _ _ =>
          hn (h₁.trans h₂).tokenStart_le
      · exact (identifierOrMissing_spec q hq).mono fun _ _ hn _ => ⟨hn.1.since h₁, hn.2⟩
    · exact identifierOrMissing_spec p hp

theorem arguments_spec : Spec (arguments g) ReadsAll := by
  intro p hp
  unfold arguments
  refine (expect_spec (by decide) p hp).bind fun _ q hq h₁ => ?_
  have hel : Spec (delimited .closeParenToken (spreadOrAssignment g)) fun p r q =>
      ReadsAll p r.1 q := delimited_spec (spreadOrAssignment_spec h)
  refine (allowIn_spec hel (fun _ _ _ _ _ hl => hl) q hq).bind fun ⟨args, _⟩ r hr h₂ => ?_
  refine (expect_spec (by decide) r hr).bind fun _ s hs h₃ => ?_
  exact Runs.pure hs fun _ _ hargs _ => (hargs.later h₃).since h₁

theorem callRest_spec (start : Nat) (callee : Node) (typeArgs : Option (List Node))
    (questionDot : Bool) : Spec (callRest g start callee typeArgs questionDot) fun p n q =>
      Built start ([callee] ++ Node.optList typeArgs) p → start < p.prevEnd →
        Node.Read start n q.prevEnd ∧ n.operator? = none := by
  intro p hp
  unfold callRest
  refine (arguments_spec h p hp).bind fun args q hq h₁ => ?_
  simp only [runs_lastEnd]
  exact Runs.pure hq fun _ hargs hb hlt =>
    ⟨(hb.add hp hargs h₁).node rfl rfl rfl (hlt.trans_le h₁.prevEnd_le) trivial trivial, rfl⟩

theorem elementAccessRest_spec (start : Nat) (object : Node) (questionDot : Bool) :
    Spec (elementAccessRest g start object questionDot) fun p n q =>
      Built start [object] p → start < p.prevEnd →
        Node.Read start n q.prevEnd ∧ n.operator? = none := by
  intro p hp
  unfold elementAccessRest
  refine (expect_spec (by decide) p hp).bind fun _ q hq h₁ => ?_
  refine (allowIn_spec h.expression (fun _ _ _ _ _ hn => hn) q hq).bind fun index r hr h₂ => ?_
  refine (expect_spec (by decide) r hr).bind fun _ s hs h₃ => ?_
  simp only [runs_lastEnd]
  exact Runs.pure hs fun _ _ hi _ hb hlt =>
    ⟨(((hb.skip h₁).read hq hi h₂).skip h₃).node rfl rfl rfl
      (hlt.trans_le ((h₁.trans h₂).trans h₃).prevEnd_le) trivial trivial, rfl⟩

theorem taggedTemplateRest_spec (start : Nat) (tag : Node) (typeArgs : Option (List Node)) :
    Spec (taggedTemplateRest g start tag typeArgs) fun p n q =>
      p.scanner.token ≠ .endOfFileToken → Built start ([tag] ++ Node.optList typeArgs) p →
        start < p.prevEnd → Node.Read start n q.prevEnd ∧ n.operator? = none := by
  intro p hp
  unfold taggedTemplateRest
  simp only [runs_isToken]
  refine Runs.ite_bind (Q := fun t q => p.scanner.token ≠ .endOfFileToken → Reads p t q)
    ((templateExpression_spec h p hp).mono fun _ _ hn hne => (hn hne).1) (literal_spec p hp)
    fun template q hq h₁ => ?_
  simp only [runs_lastEnd]
  exact Runs.pure hq fun _ ht hne hb hlt =>
    ⟨(hb.read hp (ht hne) h₁).node rfl rfl rfl (hlt.trans_le h₁.prevEnd_le) trivial trivial, rfl⟩

theorem typeArgumentsOfCall_spec (allowCalls : Bool) :
    Spec (typeArgumentsOfCall g allowCalls) fun p r q =>
      ∀ args ∈ r, ReadsAll p args q ∧ q.scanner.token ≠ .endOfFileToken := by
  intro p hp
  unfold typeArgumentsOfCall
  refine (tryParse_spec (Q := fun p r q => ∀ args ∈ r, ReadsAll p args q ∧
    q.scanner.token ≠ .endOfFileToken) ?_ p hp).mono fun _ _ hr => ?_
  · intro p hp
    refine (typeArguments_spec h p hp).bind fun o q hq h₁ => ?_
    split
    · simp only [runs_isToken]
      refine Runs.pure hq fun _ hargs args hmem => ?_
      split at hmem
      · next hfollow =>
        cases hmem
        refine ⟨hargs _ rfl, fun heof => ?_⟩
        simp [heof] at hfollow
      · nomatch hmem
    · exact Runs.pure hq fun _ _ _ hx => nomatch hx
  · rcases hr with rfl | hr
    · exact fun _ hx => nomatch hx
    · exact hr

omit h in
/-- What the postfix loop promises from `p` after an operand `e` read from `start`: an operand
read from `start`, with no operator, up to where the loop stops. -/
def MemberLoop (start : Nat) (e : Node) (p : Parser) (r : Node) (q : Parser) : Prop :=
  Node.Read start e p.prevEnd → start ≤ p.scanner.tokenStart → e.operator? = none →
    Node.Read start r q.prevEnd ∧ r.operator? = none

omit h in
/-- A postfix read after `e`, where `p` is the parser just past `e`: it builds an operand read
from `start`, with no operator. -/
def Postfix (start : Nat) (e : Node) (p : Parser) (r : Node) (q : Parser) : Prop :=
  Built start [e] p → start < p.prevEnd → Node.Read start r q.prevEnd ∧ r.operator? = none

omit h in
theorem MemberLoop.refl {start : Nat} {e : Node} {p : Parser} : MemberLoop start e p e p :=
  fun he _ hop => ⟨he, hop⟩

omit h in
theorem Postfix.skip {start : Nat} {e r : Node} {p q s : Parser} (hpost : Postfix start e q r s)
    (hf : Follows p q) : Postfix start e p r s :=
  fun hb hlt => hpost (hb.skip hf) (hlt.trans_le hf.prevEnd_le)

omit h in
theorem Postfix.after_args {start : Nat} {e r : Node} {args : List Node} {p q s : Parser}
    (hpost : Built start ([e] ++ args) q → start < q.prevEnd →
      Node.Read start r s.prevEnd ∧ r.operator? = none)
    (hp : Sane p) (hargs : ReadsAll p args q) (hf : Follows p q) : Postfix start e p r s :=
  fun hb hlt => hpost (hb.add hp hargs hf) (hlt.trans_le hf.prevEnd_le)

omit h in
theorem Postfix.propertyAccess {start : Nat} {e name : Node} {p q r : Parser} (questionDot : Bool)
    (hq : Sane q) (hf : Follows p q) (hname : Reads q name r) (h₂ : Follows q r) :
    Postfix start e p (.propertyAccess ⟨start, r.prevEnd⟩ e questionDot name) r := fun hb hlt =>
  ⟨((hb.skip hf).read hq hname h₂).node rfl rfl rfl (hlt.trans_le (hf.trans h₂).prevEnd_le)
    trivial trivial, rfl⟩

section PostfixRounds

variable {start n : Nat} {allowCalls : Bool}
  (ih : ∀ e p, Sane p → Runs p (memberRest g start allowCalls n e) (MemberLoop start e p))

include ih

omit h in
theorem memberRest_continue {e e' : Node} {p r : Parser} (hr : Sane r) (hf : Follows p r) :
    Runs r (memberRest g start allowCalls n e') fun res s =>
      Postfix start e p e' r → MemberLoop start e p res s :=
  (ih e' r hr).mono fun _ _ hres hpost he hst _ =>
    have ⟨he', hop⟩ := hpost ⟨he.all, hst⟩ he.lt
    hres he' (hst.trans hf.tokenStart_le) hop

omit h in
theorem memberRest_then {e : Node} {m : ParserM Node} {p q : Parser} (hf : Follows p q)
    (hm : Runs q m (Postfix start e p)) :
    Runs q (m >>= memberRest g start allowCalls n) (MemberLoop start e p) :=
  hm.bind fun _ _ hr h₁ => memberRest_continue ih hr (hf.trans h₁)

omit h in
theorem propertyAccessRound_spec {e : Node} {p q : Parser} (hq : Sane q) (hf : Follows p q) :
    Runs q (do
      let name ← identifierName
      let stop ← lastEnd
      memberRest g start allowCalls n (.propertyAccess ⟨start, stop⟩ e false name))
      (MemberLoop start e p) := by
  refine (identifierName_spec q hq).bind fun name r hr h₁ => ?_
  simp only [runs_lastEnd]
  exact (memberRest_continue ih hr (hf.trans h₁)).mono fun _ _ hres hname =>
    hres (Postfix.propertyAccess false hq hf hname h₁)

/-- One round of the postfix loop, from what the rest of the loop promises: each postfix builds
an operand over the one before it. -/
theorem memberRest_succ_spec (e : Node) (p : Parser) (hp : Sane p) :
    Runs p (memberRest g start allowCalls (n + 1) e) (MemberLoop start e p) := by
  unfold memberRest
  simp only [runs_token]
  split
  · refine (nextToken_spec p hp).bind fun _ q hq h₁ => ?_
    simp only [runs_isToken]
    split
    · exact (reportUnsupported_spec _ q hq).bind fun _ r hr h₂ =>
        (propertyAccessRound_spec ih hr (h₁.trans h₂)).mono fun _ _ h _ _ => h
    · exact (propertyAccessRound_spec ih hq h₁).mono fun _ _ h _ => h
  · refine (nextToken_spec p hp).bind fun _ q hq h₁ => ?_
    simp only [runs_token]
    split
    · exact (memberRest_then ih h₁ ((callRest_spec h start e none true q hq).mono
        fun _ _ hcall => Postfix.skip hcall h₁)).mono fun _ _ h _ => h
    split
    · refine (typeArguments_spec h q hq).bind fun args r hr h₂ => ?_
      refine (callRest_spec h start e args true r hr).bind fun e' s hs h₃ => ?_
      exact (memberRest_continue ih hs ((h₁.trans h₂).trans h₃)).mono fun _ _ hres hcall hargs _ =>
        hres ((Postfix.after_args hcall hq (Node.ReadAll.optList hargs) h₂).skip h₁)
    split
    · exact (memberRest_then ih h₁ ((elementAccessRest_spec h start e true q hq).mono
        fun _ _ hacc => Postfix.skip hacc h₁)).mono fun _ _ h _ => h
    · refine (identifierName_spec q hq).bind fun name r hr h₂ => ?_
      simp only [runs_lastEnd, runs_pure_bind]
      exact (memberRest_continue ih hr (h₁.trans h₂)).mono fun _ _ hres hname _ =>
        hres (Postfix.propertyAccess true hq h₁ hname h₂)
  · exact memberRest_then ih (.refl hp) (elementAccessRest_spec h start e false p hp)
  · simp only [runs_lineBreakBefore]
    split
    · exact Runs.pure hp fun _ => MemberLoop.refl
    · refine (nextToken_spec p hp).bind fun _ q hq h₁ => ?_
      simp only [runs_lastEnd]
      exact (memberRest_continue ih hq h₁).mono fun _ _ hres _ => hres fun hb hlt =>
        ⟨(hb.skip h₁).node rfl rfl rfl (hlt.trans_le h₁.prevEnd_le) trivial trivial, rfl⟩
  · rename_i htok
    exact memberRest_then ih (.refl hp) ((taggedTemplateRest_spec h start e none p hp).mono
      fun _ _ htag => htag (by simp [htok]))
  · rename_i htok
    exact memberRest_then ih (.refl hp) ((taggedTemplateRest_spec h start e none p hp).mono
      fun _ _ htag => htag (by simp [htok]))
  · split
    · exact Runs.pure hp fun _ => MemberLoop.refl
    · exact memberRest_then ih (.refl hp) (callRest_spec h start e none false p hp)
  · refine (typeArgumentsOfCall_spec h allowCalls p hp).bind fun o q hq h₁ => ?_
    split
    · simp only [runs_isToken]
      split
      · refine (callRest_spec h start e _ false q hq).bind fun e' r hr h₂ => ?_
        exact (memberRest_continue ih hr (h₁.trans h₂)).mono fun _ _ hres hcall hargs =>
          hres (Postfix.after_args hcall hp (hargs _ rfl).1 h₁)
      · refine (taggedTemplateRest_spec h start e _ q hq).bind fun e' r hr h₂ => ?_
        exact (memberRest_continue ih hr (h₁.trans h₂)).mono fun _ _ hres htag hargs =>
          hres (Postfix.after_args (htag (hargs _ rfl).2) hp (hargs _ rfl).1 h₁)
    · exact Runs.pure hq fun _ _ he _ hop => ⟨he.mono le_rfl h₁.prevEnd_le, hop⟩
  · exact Runs.pure hp fun _ => MemberLoop.refl

end PostfixRounds

theorem memberRest_spec (start : Nat) (allowCalls : Bool) : ∀ (n : Nat) (e : Node) (p : Parser),
    Sane p → Runs p (memberRest g start allowCalls n e) (MemberLoop start e p)
  | 0, _, _, hp => Runs.pure hp fun _ => MemberLoop.refl
  | _ + 1, e, p, hp => memberRest_succ_spec h (memberRest_spec start allowCalls _) e p hp

theorem newExpression_spec : Spec (newExpression g) ReadsOperand := by
  intro p hp
  unfold newExpression
  simp only [runs_tokenPos, runs_tokenEnd]
  refine (expect_spec (by decide) p hp).bind fun _ q hq h₁ => ?_
  simp only [runs_isToken]
  split
  · refine (nextToken_spec q hq).bind fun _ r hr h₂ => ?_
    refine (identifierName_spec r hr).bind fun name s hs h₃ => ?_
    simp only [runs_lastEnd]
    refine Runs.pure hs fun _ hname _ ⟨_, hend, hlt⟩ => ⟨?_, rfl⟩
    have hkw : Reads p (.keyword ⟨p.scanner.tokenStart, p.scanner.pos⟩ .newKeyword) q :=
      Node.Read.leaf rfl trivial trivial le_rfl (hend ▸ hlt) hend.ge
    exact ((((Built.begin p).read hp hkw h₁).skip h₂).read hr hname h₃).node rfl rfl rfl
      ((Built.begin p).lt_of_read hkw |>.trans_le (h₂.trans h₃).prevEnd_le) trivial trivial
  simp only [runs_tokenPos, runs_isToken]
  refine Runs.ite_bind (Q := ReadsOperand q) (h.newExpression q hq) (primary_spec h q hq)
    fun callee r hr h₂ => ?_
  simp only [runs_budget]
  refine (memberRest_spec h q.scanner.tokenStart false _ callee r hr).bind fun e s hs h₃ => ?_
  simp only [runs_isToken]
  refine Runs.ite_bind (Q := fun o t => ∀ xs ∈ o, ReadsAll s xs t)
    ((tryParse_spec (typeArguments_spec h) s hs).mono fun _ _ ho =>
      ho.elim (fun h => h ▸ fun _ hx => nomatch hx) id)
    (Runs.pure hs fun _ _ hx => nomatch hx) fun typeArgs t ht h₄ => ?_
  simp only [runs_isToken]
  refine Runs.ite_bind (Q := fun o u => ∀ xs ∈ o, ReadsAll t xs u) (arguments_spec h t ht).some_map
    (Runs.pure ht fun _ _ hx => nomatch hx) fun args u hu h₅ => ?_
  simp only [runs_lastEnd]
  refine Runs.pure hu fun _ hargs htas hmem hcallee _ => ⟨?_, rfl⟩
  have he : Reads q e s := (hmem hcallee.1 h₂.tokenStart_le hcallee.2).1
  exact (((((Built.begin p).skip h₁).read hq he (h₂.trans h₃)).add hs (Node.ReadAll.optList htas)
    h₄).add ht (Node.ReadAll.optList hargs) h₅).node rfl rfl rfl
    (((Built.begin p).skip h₁).lt_of_read he |>.trans_le (h₄.trans h₅).prevEnd_le) trivial trivial

theorem leftHandSide_spec : Spec (leftHandSide g) ReadsOperand := by
  intro p hp
  unfold leftHandSide
  simp only [runs_tokenPos, runs_isToken]
  refine Runs.ite_bind (Q := ReadsOperand p) (h.newExpression p hp) (primary_spec h p hp)
    fun e q hq h₁ => ?_
  simp only [runs_budget]
  exact (memberRest_spec h p.scanner.tokenStart true _ e q hq).mono fun _ _ hres he =>
    hres he.1 h₁.tokenStart_le he.2

end Members

/-! ### Operators and assignments -/

section Operators

variable (h : g.Sound)
include h

omit h in
theorem isAwaitOperator_spec : Spec isAwaitOperator fun _ _ _ => True := by
  intro p hp
  unfold isAwaitOperator
  simp only [runs_get]
  split
  · exact Runs.pure hp fun _ => trivial
  · exact lookAhead_next_moves (fun _ => rfl) p hp

theorem prefixUnary_spec (start : Nat) : Spec (prefixUnary g start) fun p n q =>
    start ≤ p.scanner.tokenStart → Node.Read start n q.prevEnd ∧ n.operator? = none := by
  intro p hp
  unfold prefixUnary
  simp only [runs_token]
  refine (nextToken_spec p hp).bind fun _ q hq h₁ => ?_
  refine (h.unary q hq).bind fun operand r hr h₂ => ?_
  simp only [runs_lastEnd]
  exact Runs.pure hr fun _ ⟨hop, _⟩ _ hst =>
    have hb := (Built.of_le hst).skip h₁
    ⟨(hb.read hq hop h₂).node rfl rfl rfl (hb.lt_of_read hop) trivial trivial, rfl⟩

theorem unaryBody_spec : Spec (unaryBody g) ReadsOperand := by
  intro p hp
  unfold unaryBody
  simp only [runs_tokenPos, runs_token]
  generalize hT : (if (p.scanner.token == TokenKind.lessThanToken) = true then (_ : ParserM Node)
    else _) = tail
  have htail : ∀ q, Sane q → Follows p q → Runs q tail (ReadsOperand p) := by
    intro q hq h₁
    subst hT
    split
    · exact (reportUnsupported_spec _ q hq).bind fun _ r hr _ => (nextToken_spec r hr).bind
        fun _ s hs _ => (missingIdent_spec s hs).mono fun _ _ _ _ h => h.elim
    refine (leftHandSide_spec h q hq).bind fun e r hr h₂ => ?_
    simp only [runs_isToken, runs_lineBreakBefore]
    split
    · simp only [runs_token]
      refine (nextToken_spec r hr).bind fun _ s hs h₃ => ?_
      simp only [runs_lastEnd]
      exact Runs.pure hs fun _ _ ⟨he, _⟩ =>
        have hb := (Built.of_le h₁.tokenStart_le).read hq he h₂
        ⟨(hb.skip h₃).node rfl rfl rfl ((Built.of_le h₁.tokenStart_le).lt_of_read he |>.trans_le
          h₃.prevEnd_le) trivial trivial, rfl⟩
    · exact Runs.pure hr fun _ he => ⟨he.1.since h₁, he.2⟩
  split
  · exact (prefixUnary_spec h _ p hp).mono fun _ _ hn => hn le_rfl
  split
  · refine (isAwaitOperator_spec p hp).bind fun b q hq h₁ => ?_
    split
    · exact (prefixUnary_spec h _ q hq).mono fun _ _ hn _ => hn h₁.tokenStart_le
    · exact (htail q hq h₁).mono fun _ _ hn _ => hn
  · exact htail p hp (.refl hp)

omit h in
/-- What the operator loop promises from `p`, after a `left` read from `start` and with more rounds
`n` than bytes ahead: a node read from `start` that binds at `minPrec`, before an operator
that stops the loop. -/
def OperatorLoop (start minPrec n : Nat) (left : Node) (p : Parser) (r : Node) (q : Parser) :
    Prop :=
  Node.Read start left p.prevEnd → start ≤ p.scanner.tokenStart → Above minPrec left →
    (∀ l ∈ left.operator?, Stops (Node.operatorPrecedence l) p) →
    p.scanner.size - p.scanner.tokenStart < n →
      Node.Read start r q.prevEnd ∧ Above minPrec r ∧ Stops minPrec q

omit h in
theorem OperatorLoop.of_rescanGreater {start minPrec n : Nat} {left r : Node} {p q : Parser}
    (hl : OperatorLoop start minPrec n left { p with scanner := p.scanner.rescanGreater } r q) :
    OperatorLoop start minPrec n left p r q := by
  intro he hst hab hops hn
  have hr := Scanner.rescanGreater_readsOn p.scanner
  have hsize : p.scanner.rescanGreater.size = p.scanner.size := by
    rw [Scanner.size, Scanner.size, hr.text_eq]
  refine hl he ?_ hab (fun l hl' => (hops l hl').rescanGreater) ?_
  · show start ≤ p.scanner.rescanGreater.tokenStart
    rw [hr.tokenStart_eq]
    exact hst
  · show p.scanner.rescanGreater.size - p.scanner.rescanGreater.tokenStart < n
    rw [hsize, hr.tokenStart_eq]
    exact hn

omit h in
theorem ahead_lt_of_consumed {p q r : Parser} {n : Nat} (hp : Sane p)
    (hne : p.scanner.token ≠ .endOfFileToken) (hadv : p.scanner.tokenStart < q.prevEnd)
    (hq : Sane q) (h₁ : Follows p q) (h₂ : Follows q r)
    (hn : p.scanner.size - p.scanner.tokenStart < n + 1) :
    r.scanner.size - r.scanner.tokenStart < n := by
  have := hp.valid.tokenStart_lt_size hne
  have := hq.prevEnd_le
  have := h₂.tokenStart_le
  have := (h₁.trans h₂).size_eq
  omega

section OperatorRounds

variable {start minPrec n : Nat}
  (ih : ∀ e p, Sane p → Runs p (binaryRest g start minPrec n e) (OperatorLoop start minPrec n e p))

include ih

theorem typeRound_spec {left : Node}
    {p : Parser} (hp : Sane p) (hne : p.scanner.token ≠ .endOfFileToken) :
    Runs p (do
      nextToken
      let type ← g.type
      let stop ← lastEnd
      binaryRest g start minPrec n (if p.scanner.token == .asKeyword then
        Node.asExpr ⟨start, stop⟩ left type else Node.satisfiesExpr ⟨start, stop⟩ left type))
      (OperatorLoop start minPrec (n + 1) left p) := by
  refine (nextToken_spec p hp).bind fun _ q hq h₁ => ?_
  refine (h.type q hq).bind fun type r hr h₂ => ?_
  simp only [runs_lastEnd]
  refine (ih _ r hr).mono fun _ _ hres htype ⟨_, hadv⟩ he hst _ _ hn => hres ?_ ?_ ?_ ?_ ?_
  · have hbt := ((⟨he.all, hst⟩ : Built start [left] p).skip h₁).read hq htype h₂
    have hlt := he.lt.trans_le (h₁.trans h₂).prevEnd_le
    split
    · exact hbt.node rfl rfl rfl hlt trivial trivial
    · exact hbt.node rfl rfl rfl hlt trivial trivial
  · exact hst.trans (h₁.trans h₂).tokenStart_le
  · intro _ hop
    split at hop <;> nomatch hop
  · intro _ hop
    split at hop <;> nomatch hop
  · exact ahead_lt_of_consumed hp hne (hadv hne) hq h₁ h₂ hn

theorem operatorRound_spec {left : Node}
    {p : Parser} (hp : Sane p) (hfix : p.scanner.rescanGreater = p.scanner)
    (hzero : binaryPrecedence p.scanner.token p.context.disallowIn ≠ 0)
    (hb : Binds minPrec p.scanner.token)
    (has : ¬(p.scanner.token = .asKeyword ∨ p.scanner.token = .satisfiesKeyword)) :
    Runs p (do
      nextToken
      let right ← g.binary (binaryPrecedence p.scanner.token p.context.disallowIn)
      let stop ← lastEnd
      binaryRest g start minPrec n (Node.binary ⟨start, stop⟩ left p.scanner.token right))
      (OperatorLoop start minPrec (n + 1) left p) := by
  have hne := ne_eof_of_binaryPrecedence hzero
  refine (nextToken_spec p hp).bind fun _ q hq h₁ => ?_
  refine (h.binary _ q hq).bind fun right r hr h₂ => ?_
  simp only [runs_lastEnd]
  rw [binaryPrecedence_of_ne_zero hzero]
  have hop : (Node.binary ⟨start, r.prevEnd⟩ left p.scanner.token right).operator? =
      some p.scanner.token := by
    simp only [Node.operator?, ← binaryPrecedence_of_ne_zero hzero, if_neg hzero]
  refine (ih _ r hr).mono
    fun _ _ hres ⟨hright, habove, hstops⟩ ⟨_, hadv⟩ he hst _ hl hn => hres ?_ ?_ ?_ ?_ ?_
  · have hops : Node.OperandsOK (.binary ⟨start, r.prevEnd⟩ left p.scanner.token right) :=
      fun _ => ⟨fun lop hlop => Stops.operatorPrecedence_le (hl lop hlop) hfix hzero has,
        fun rop hrop => (habove rop hrop).lt_or_pow, by
          have := he.stop_le
          have := hp.prevEnd_le
          have := hadv hne
          have := hq.prevEnd_le
          have := hright.lo_le
          omega⟩
    exact (((⟨he.all, hst⟩ : Built start [left] p).skip h₁).read hq hright h₂).node rfl rfl
      rfl (he.lt.trans_le (h₁.trans h₂).prevEnd_le) hops trivial
  · exact hst.trans (h₁.trans h₂).tokenStart_le
  · intro _ hmem
    rw [hop] at hmem
    cases hmem
    exact hb
  · intro _ hmem
    rw [hop] at hmem
    cases hmem
    exact hstops
  · exact ahead_lt_of_consumed hp hne (hadv hne) hq h₁ h₂ hn

/-- One round of the operator loop, from what the rest of the loop promises: a `>` is read
again first, and the round returns at an operator that does not go on. -/
theorem binaryRest_succ_spec {left : Node} (p : Parser) (hp : Sane p) :
    Runs p (binaryRest g start minPrec (n + 1) left)
      (OperatorLoop start minPrec (n + 1) left p) := by
  unfold binaryRest
  simp only [runs_isToken]
  generalize hT : (token >>= (_ : TokenKind → ParserM Node)) = round
  have hround : ∀ p', Sane p' → p'.scanner.rescanGreater = p'.scanner → Runs p' round
      (OperatorLoop start minPrec (n + 1) left p') := by
    intro p' hp' hfix
    subst hT
    simp only [runs_token, runs_get]
    -- the splits are by hand: `split` would take the `if` inside the test of `binds` first
    by_cases hzero : binaryPrecedence p'.scanner.token p'.context.disallowIn = 0
    · rw [if_pos (by simpa using hzero)]
      exact Runs.pure hp' fun _ he _ hab _ _ => ⟨he, hab, .inl (by rw [hfix]; exact hzero)⟩
    rw [if_neg (by simpa using hzero)]
    by_cases hb : Binds minPrec p'.scanner.token
    swap
    · rw [if_pos (by rw [decide_eq_false (mt (binds_iff hzero).1 hb)]; rfl)]
      exact Runs.pure hp' fun _ he _ hab _ _ => ⟨he, hab, .inr (.inl (by rw [hfix]; exact hb))⟩
    rw [if_neg (by rw [decide_eq_true ((binds_iff hzero).2 hb)]; decide)]
    by_cases has : p'.scanner.token = .asKeyword ∨ p'.scanner.token = .satisfiesKeyword
    · rw [if_pos (by simpa using has)]
      simp only [runs_lineBreakBefore]
      by_cases hbreak : p'.scanner.lineBreakBefore = true
      · rw [if_pos hbreak]
        exact Runs.pure hp' fun _ he _ hab _ _ => ⟨he, hab, .inr (.inr (by rw [hfix]; exact has))⟩
      rw [if_neg hbreak]
      exact typeRound_spec h ih hp' (ne_eof_of_binaryPrecedence hzero)
    rw [if_neg (by simpa using has)]
    exact operatorRound_spec h ih hp' hfix hzero hb has
  split
  · refine Runs.of_step (x := ()) (q := { p with scanner := p.scanner.rescanGreater }) ?_
      (rescanGreater_spec p hp).2.1 ?_
    · rfl
    exact (hround _ (rescanGreater_spec p hp).1 (Scanner.rescanGreater_rescanGreater _)).mono
      fun _ _ => OperatorLoop.of_rescanGreater
  · next hgt =>
    exact hround p hp (Scanner.rescanGreater_of_ne (by simpa using hgt))

end OperatorRounds

theorem binaryRest_spec (start minPrec : Nat) : ∀ (n : Nat) (left : Node) (p : Parser), Sane p →
    Runs p (binaryRest g start minPrec n left) (OperatorLoop start minPrec n left p)
  | 0, _, _, hp => Runs.pure hp fun _ _ _ _ _ hn => absurd hn (Nat.not_lt_zero _)
  | _ + 1, _, p, hp => binaryRest_succ_spec h (binaryRest_spec start minPrec _) p hp

omit h in
theorem above_of_operator_none {k : Nat} {n : Node} (hop : n.operator? = none) : Above k n :=
  fun _ hmem => by simp [hop] at hmem

/-- A binary expression at `minPrec`: a unary operand, then the operator loop with more rounds
than bytes left. -/
theorem binaryBody_spec (minPrec : Nat) : Spec (binaryBody g minPrec) fun p n q =>
    Reads p n q ∧ Above minPrec n ∧ Stops minPrec q := by
  intro p hp
  unfold binaryBody
  simp only [runs_tokenPos]
  refine (h.unary p hp).bind fun left q hq h₁ => ?_
  simp only [runs_budget]
  exact (binaryRest_spec h p.scanner.tokenStart minPrec _ left q hq).mono
    fun _ _ hres ⟨hleft, hop⟩ => hres hleft h₁.tokenStart_le (above_of_operator_none hop)
      (fun _ hl => by simp [hop] at hl) (by omega)

omit h in
theorem startsExpression_spec : Spec startsExpression fun _ _ _ => True :=
  fun _ hp => ⟨hp, .refl hp, fun _ => trivial⟩

theorem yieldExpression_spec : Spec (yieldExpression g) fun p n q =>
    p.scanner.token = .yieldKeyword → Reads p n q := by
  intro p hp
  unfold yieldExpression
  simp only [runs_tokenPos]
  refine (nextToken_spec p hp).bind fun _ q hq h₁ => ?_
  simp only [runs_lineBreakBefore]
  refine Runs.ite_bind (Q := fun _ _ => True) (Runs.pure hq fun _ => trivial)
    ((accept_spec (by decide) q hq).mono fun _ _ _ => trivial) fun delegate r hr h₂ => ?_
  simp only [runs_lineBreakBefore]
  refine (startsExpression_spec r hr).bind fun _ s hs h₃ => ?_
  refine Runs.ite_bind (Q := fun o t => ∀ x ∈ o, Reads s x t) (h.assignment s hs).some_map
    (Runs.pure hs fun _ _ hx => nomatch hx) fun operand t ht h₄ => ?_
  simp only [runs_lastEnd]
  refine Runs.pure ht fun _ hop _ _ ⟨_, hadv⟩ hyield => ?_
  have hlt : p.scanner.tokenStart < t.prevEnd :=
    (hadv (by rw [hyield]; decide)).trans_le ((h₂.trans h₃).trans h₄).prevEnd_le
  exact (((Built.begin p).skip ((h₁.trans h₂).trans h₃)).opt hs hop h₄).node rfl rfl rfl hlt
    trivial trivial

/-- An assignment expression: a `yield` in a generator, an arrow function, or a binary
expression with an assignment or a conditional after it. An assignment builds a binary node
whose operator has no precedence, so the operator loop's promises say nothing of it. -/
theorem assignmentBody_spec : Spec (assignmentBody g) Reads := by
  intro p hp
  unfold assignmentBody
  simp only [runs_isToken, runs_get]
  split
  · next hy =>
    simp only [Bool.and_eq_true, beq_iff_eq] at hy
    exact (yieldExpression_spec h p hp).mono fun _ _ hn => hn hy.1
  refine (arrowFunction_spec h p hp).bind fun r q hq h₁ => ?_
  rcases r with _ | arrow
  swap
  · exact Runs.pure hq fun _ harrow => harrow arrow rfl
  dsimp only
  simp only [runs_tokenPos]
  refine (h.binary 0 q hq).bind fun left r hr h₂ => ?_
  simp only [runs_token]
  split
  · next hk =>
    refine (nextToken_spec r hr).bind fun _ s hs h₃ => ?_
    refine (h.assignment s hs).bind fun right t ht h₄ => ?_
    simp only [runs_lastEnd]
    refine Runs.pure ht fun _ hright _ ⟨hleft, _, _⟩ _ => Reads.since ?_ h₁
    have hb := ((Built.begin q).read hq hleft h₂).skip h₃
    exact (hb.read hs hright h₄).node rfl rfl rfl
      ((Built.begin q).lt_of_read hleft |>.trans_le (h₃.trans h₄).prevEnd_le)
      (fun hne => absurd (operatorPrecedence_of_isAssignment hk) hne) trivial
  split
  · refine (nextToken_spec r hr).bind fun _ s hs h₃ => ?_
    refine (allowIn_spec (h.assignment) fun _ _ _ _ _ hx => hx) s hs |>.bind
      fun whenTrue t ht h₄ => ?_
    refine (expect_spec (by decide) t ht).bind fun _ u hu h₅ => ?_
    refine (h.assignment u hu).bind fun whenFalse v hv h₆ => ?_
    simp only [runs_lastEnd]
    refine Runs.pure hv fun _ hfalse _ htrue _ ⟨hleft, _, _⟩ _ => Reads.since ?_ h₁
    have hb := ((((Built.begin q).read hq hleft h₂).skip h₃).read hs htrue h₄).skip h₅
    exact (hb.read hu hfalse h₆).node rfl rfl rfl
      ((Built.begin q).lt_of_read hleft |>.trans_le (((h₃.trans h₄).trans h₅).trans h₆).prevEnd_le)
      trivial trivial
  · exact Runs.pure hr fun _ ⟨hleft, _, _⟩ _ => hleft.since h₁

theorem assignment_spec : Spec (assignment g) Reads :=
  guarded_spec (fun _ hp => missingIdent_spec _ hp) (assignmentBody_spec h)
    fun _ _ _ _ _ hr => hr

theorem commaRest_spec (start : Nat) : ∀ (n : Nat) (left : Node) (p : Parser), Sane p →
    Runs p (commaRest g start n left) fun r q =>
      Node.Read start left p.prevEnd → start ≤ p.scanner.tokenStart → Node.Read start r q.prevEnd
  | 0, left, p, hp => Runs.pure hp fun _ he _ => he
  | n + 1, left, p, hp => by
    unfold commaRest
    simp only [runs_isToken]
    split
    · exact Runs.pure hp fun _ he _ => he
    refine (nextToken_spec p hp).bind fun _ q hq h₁ => ?_
    refine (h.assignment q hq).bind fun right r hr h₂ => ?_
    simp only [runs_lastEnd]
    refine (commaRest_spec start n _ r hr).mono fun _ _ hres hright _ he hst => hres ?_ ?_
    · exact (((⟨he.all, hst⟩ : Built start [left] p).skip h₁).read hq hright h₂).node rfl rfl rfl
        (he.lt.trans_le (h₁.trans h₂).prevEnd_le) (fun hne => absurd rfl hne) trivial
    · exact hst.trans (h₁.trans h₂).tokenStart_le

theorem expression_spec : Spec (expression g) Reads := by
  intro p hp
  unfold expression
  simp only [runs_tokenPos]
  refine (h.assignment p hp).bind fun first q hq h₁ => ?_
  simp only [runs_budget]
  exact (commaRest_spec h p.scanner.tokenStart _ first q hq).mono fun _ _ hres hfirst =>
    hres hfirst h₁.tokenStart_le

end Operators

end Parser

end ParamNarrow
