import ParamNarrow.Proofs.Tree.Expressions
import ParamNarrow.Syntax.Parser.Statements
/-!
# Declarations, imports and exports read well formed

From a sound grammar (`Grammar.Sound`) every declaration rule reads well-formed nodes. A
declaration's node starts where its modifiers did, before the token its rule begins at, so the
declaration rules are specified from that start (`Built.of_le`).

Every rule that reports a diagnostic promises nothing more: the reports of unsupported
declarations and of modifiers that no declaration follows are dirty ends.

An import clause is read by a chain of join points. These are the default name, whether bindings
follow, the bindings, and the clause's end. Each has its own lemma, and each lemma assumes the
spec of the join point after it. An inner node, the clause, starts at the clause's first token.
-/

namespace ParamNarrow

namespace Parser

variable {g : Grammar}

/-! ### Look-aheads -/

theorem isLetDeclaration_spec : Spec isLetDeclaration fun _ _ _ => True :=
  lookAhead_next_moves fun _ => rfl

theorem nextIsIdentifierOnSameLine_spec : Spec nextIsIdentifierOnSameLine fun _ _ _ => True :=
  lookAhead_next_moves fun _ => rfl

theorem isImportCall_spec : Spec isImportCall fun _ _ _ => True :=
  lookAhead_next_moves fun _ => rfl

theorem startsDeclarationAfterModifier_spec :
    Spec startsDeclarationAfterModifier fun _ _ _ => True :=
  lookAhead_next_moves fun _ => rfl

theorem isNamespaceDeclaration_spec : Spec isNamespaceDeclaration fun _ _ _ => True :=
  lookAhead_next_moves fun _ => rfl

theorem isGlobalAugmentation_spec : Spec isGlobalAugmentation fun _ _ _ => True :=
  lookAhead_next_moves fun _ => rfl

theorem startsAsyncFunction_spec : Spec startsAsyncFunction fun _ _ _ => True :=
  lookAhead_next_moves fun _ => rfl

theorem Runs.dirty_bind {α β : Type} {p : Parser} {m : ParserM α} {f : α → ParserM β}
    {R : β → Parser → Prop} (hm : Runs p m fun _ _ => False)
    (hf : ∀ a q, Sane q → Runs q (f a) fun _ _ => True) : Runs p (m >>= f) R :=
  hm.bind fun a q hq _ => (hf a q hq).mono fun _ _ _ hF => hF.elim

theorem Runs.some_read {p : Parser} {m : ParserM Node} {start : Nat}
    (h : Runs p m fun n q => start ≤ p.scanner.tokenStart → Node.Read start n q.prevEnd) :
    Runs p (some <$> m) fun r q => start ≤ p.scanner.tokenStart → ∀ n ∈ r,
      Node.Read start n q.prevEnd :=
  Runs.map (h.mono fun _ _ hn hst _ hx => Option.some.inj hx ▸ hn hst)

theorem Runs.map_some {α : Type} {p : Parser} {m : ParserM α} {R : α → Parser → Prop}
    (h : Runs p m R) : Runs p (some <$> m) fun o q => ∃ x, o = some x ∧ R x q :=
  Runs.map (h.mono fun x _ hx => ⟨x, rfl, hx⟩)

/-! ### Variables and declarations -/

section Declarations

variable (h : g.Sound)
include h

theorem variableDeclaration_spec : Spec (variableDeclaration g) Reads := by
  intro p hp
  unfold variableDeclaration
  simp only [runs_tokenPos]
  refine (h.bindingName p hp).bind fun name q hq h₁ => ?_
  simp only [runs_lineBreakBefore]
  refine Runs.ite_bind (Q := fun _ _ => True) (Runs.pure hq fun _ => trivial)
    ((accept_spec (by decide) q hq).mono fun _ _ _ => trivial) fun definite r hr h₂ => ?_
  refine (accept_spec (by decide) r hr).bind fun _ s hs h₃ => ?_
  refine Runs.optional hs h.type fun type t ht h₄ => ?_
  refine (accept_spec (by decide) t ht).bind fun _ u hu h₅ => ?_
  refine Runs.optional hu h.assignment fun init v hv h₆ => ?_
  simp only [runs_lastEnd]
  refine Runs.pure hv fun _ hinit _ htype _ _ hname => ?_
  have hb := ((Built.begin p).read hp hname h₁).skip (h₂.trans h₃)
  exact ((hb.opt hs htype h₄).skip h₅ |>.opt hu hinit h₆).node rfl rfl rfl
    ((Built.begin p).lt_of_read hname |>.trans_le ((((h₂.trans h₃).trans h₄).trans h₅).trans
      h₆).prevEnd_le) trivial trivial

theorem variableList_spec : Spec (variableList g) Reads := by
  intro p hp
  unfold variableList
  simp only [runs_tokenPos, runs_token]
  refine (nextToken_spec p hp).bind fun _ q hq h₁ => ?_
  refine (variableDeclaration_spec h q hq).bind fun first r hr h₂ => ?_
  refine (separated_spec (P := fun _ => True) (by decide)
    (fun s hs => (variableDeclaration_spec h s hs).mono fun _ _ hx => ⟨hx, trivial⟩) r hr).bind
    fun rest s hs h₃ => ?_
  simp only [runs_lastEnd]
  refine Runs.pure hs fun _ ⟨hrest, _⟩ hfirst _ => ?_
  have hb := ((Built.begin p).skip h₁).read hq hfirst h₂
  exact (hb.add hr hrest h₃).node rfl rfl rfl
    (((Built.begin p).skip h₁).lt_of_read hfirst |>.trans_le h₃.prevEnd_le) trivial trivial

theorem variableStatement_spec (start : Nat) (mods : Modifiers) :
    Spec (variableStatement g start mods) fun p n q =>
      start ≤ p.scanner.tokenStart → Node.Read start n q.prevEnd := by
  intro p hp
  unfold variableStatement
  refine (variableList_spec h p hp).bind fun list q hq h₁ => ?_
  refine (semicolon_spec q hq).bind fun _ r hr h₂ => ?_
  simp only [runs_lastEnd]
  refine Runs.pure hr fun _ _ hlist hst => ?_
  have hb := (Built.of_le hst).read hp hlist h₁
  exact (hb.skip h₂).node rfl rfl rfl ((Built.of_le hst).lt_of_read hlist |>.trans_le
    h₂.prevEnd_le) trivial trivial

theorem functionDeclaration_spec (start : Nat) (mods : Modifiers) :
    Spec (functionDeclaration g start mods) fun p n q =>
      start ≤ p.scanner.tokenStart → Node.Read start n q.prevEnd := by
  intro p hp
  unfold functionDeclaration
  refine (expect_spec (by decide) p hp).bind fun _ q hq h₁ => ?_
  refine (accept_spec (by decide) q hq).bind fun asterisk r hr h₂ => ?_
  simp only [runs_isIdentifier]
  have htail : ∀ name s, Sane s → Follows r s →
      Runs s (functionLikeRest g .declaration start mods asterisk name true) fun n t =>
        (∀ x ∈ name, Reads r x s) → start ≤ p.scanner.tokenStart → Node.Read start n t.prevEnd :=
    fun name s hs h₃ => (functionLikeRest_spec h _ _ _ _ _ _ s hs).mono fun _ _ hn hname hst =>
      (hn (((Built.of_le hst).skip (h₁.trans h₂)).opt hr hname h₃)).1
  refine Runs.mono (Q := fun n t => start ≤ p.scanner.tokenStart → Node.Read start n t.prevEnd) ?_
    fun _ _ hn _ _ => hn
  split
  · exact (identifier_spec r hr).some_map.bind htail
  split
  · simp only [runs_pure_bind]
    exact (htail none r hr (.refl hr)).mono fun _ _ hn => hn fun _ hx => nomatch hx
  · exact (identifier_spec r hr).some_map.bind htail

theorem typeAlias_spec (start : Nat) (mods : Modifiers) :
    Spec (typeAlias g start mods) fun p n q =>
      start ≤ p.scanner.tokenStart → Node.Read start n q.prevEnd := by
  intro p hp
  unfold typeAlias
  refine (expect_spec (by decide) p hp).bind fun _ q hq h₁ => ?_
  refine (identifier_spec q hq).bind fun name r hr h₂ => ?_
  refine (typeParameters_spec h r hr).bind fun tps s hs h₃ => ?_
  refine (expect_spec (by decide) s hs).bind fun _ t ht h₄ => ?_
  refine (h.type t ht).bind fun type u hu h₅ => ?_
  refine (semicolon_spec u hu).bind fun _ v hv h₆ => ?_
  simp only [runs_lastEnd]
  refine Runs.pure hv fun _ _ htype _ htps hname _ hst => ?_
  have hb := ((((Built.of_le hst).skip h₁).read hq hname h₂).add hr (Node.ReadAll.optList htps)
    h₃).skip h₄
  exact ((hb.read ht htype h₅).skip h₆).node rfl rfl rfl
    (((Built.of_le hst).skip h₁).lt_of_read hname |>.trans_le
      ((((h₃.trans h₄).trans h₅).trans h₆)).prevEnd_le) trivial trivial

theorem interfaceDeclaration_spec (start : Nat) (mods : Modifiers) :
    Spec (interfaceDeclaration g start mods) fun p n q =>
      start ≤ p.scanner.tokenStart → Node.Read start n q.prevEnd := by
  intro p hp
  unfold interfaceDeclaration
  refine (expect_spec (by decide) p hp).bind fun _ q hq h₁ => ?_
  refine (identifier_spec q hq).bind fun name r hr h₂ => ?_
  refine (typeParameters_spec h r hr).bind fun tps s hs h₃ => ?_
  refine (accept_spec (by decide) s hs).bind fun _ t ht h₄ => ?_
  extract_lets jp
  have hjp : ∀ heritage u, Sane u → Follows s u → Runs u (jp heritage) fun n v =>
      Built start ([name] ++ Node.optList tps ++ Node.optList heritage) u → start < u.prevEnd →
        Node.Read start n v.prevEnd := by
    intro heritage u hu h₅
    simp only [jp, runs_isToken]
    have hmembers : ∀ v, Sane v → Follows u v → Runs v (do
        let members ← typeMembers g
        let stop ← lastEnd
        pure (Node.interfaceDeclaration ⟨start, stop⟩ mods name tps heritage members)) fun n w =>
          Built start ([name] ++ Node.optList tps ++ Node.optList heritage) u →
            start < u.prevEnd → Node.Read start n w.prevEnd := by
      intro v hv h₆
      refine (typeMembers_spec h v hv).bind fun members w hw h₇ => ?_
      simp only [runs_lastEnd]
      exact Runs.pure hw fun _ ⟨hms, _⟩ hb hlt => ((hb.skip h₆).add hv hms h₇).node rfl rfl rfl
        (hlt.trans_le (h₆.trans h₇).prevEnd_le) trivial trivial
    split
    · exact (reportUnsupported_spec _ u hu).bind fun _ v hv h₆ =>
        (hmembers v hv h₆).mono fun _ _ _ hF => hF.elim
    · exact hmembers u hu (.refl hu)
  refine Runs.mono (Q := fun n v => Built start ([name] ++ Node.optList tps) s → start < s.prevEnd →
    Node.Read start n v.prevEnd) ?_ fun _ _ hn _ htps hname _ hst => ?_
  · split
    · refine (typeReference_spec h t ht).bind fun first u hu h₅ => ?_
      refine (separated_spec (P := fun n => n.typeLevel = 4) (by decide) (typeReference_spec h) u
        hu).bind fun rest v hv h₆ => ?_
      simp only [runs_pure_bind]
      refine (hjp _ v hv ((h₄.trans h₅).trans h₆)).mono fun _ _ hn ⟨hrest, _⟩ ⟨hfirst, _⟩ hb hlt =>
        hn ?_ (hlt.trans_le ((h₄.trans h₅).trans h₆).prevEnd_le)
      have hb' := ((hb.skip h₄).read ht hfirst h₅).add hu hrest h₆
      rwa [List.append_assoc, List.singleton_append] at hb'
    · simp only [runs_pure_bind]
      exact (hjp none t ht h₄).mono fun _ _ hn hb hlt =>
        hn (by simpa only [Node.optList, List.append_nil] using hb.skip h₄)
          (hlt.trans_le h₄.prevEnd_le)
  · have hb := ((Built.of_le hst).skip h₁).read hq hname h₂
    exact hn (hb.add hr (Node.ReadAll.optList htps) h₃)
      (((Built.of_le hst).skip h₁).lt_of_read hname |>.trans_le h₃.prevEnd_le)

theorem declarationKinds_spec (start : Nat) (mods : Modifiers) :
    Spec (declarationKinds g start mods) fun p r q =>
      start ≤ p.scanner.tokenStart → ∀ n ∈ r, Node.Read start n q.prevEnd := by
  intro p hp
  unfold declarationKinds
  simp only [runs_token]
  have hunsupported : ∀ what, Runs p (some <$> unsupportedDeclaration what) fun r q =>
      start ≤ p.scanner.tokenStart → ∀ n ∈ r, Node.Read start n q.prevEnd := fun what =>
    (unsupportedDeclaration_spec what p hp).some_map.mono fun _ _ hF _ n hn => (hF n hn).elim
  split
  · exact (functionDeclaration_spec h start mods p hp).some_read
  · refine (peekIs_spec _ p hp).bind fun _ q hq h₁ => ?_
    split
    · exact (unsupportedDeclaration_spec _ q hq).some_map.mono fun _ _ hF _ _ n hn =>
        (hF n hn).elim
    · exact (variableStatement_spec h start mods q hq).some_read.mono fun _ _ hn _ hst =>
        hn (hst.trans h₁.tokenStart_le)
  · exact (variableStatement_spec h start mods p hp).some_read
  · exact (variableStatement_spec h start mods p hp).some_read
  · exact (typeAlias_spec h start mods p hp).some_read
  · exact (interfaceDeclaration_spec h start mods p hp).some_read
  · exact hunsupported _
  · exact hunsupported _
  · exact hunsupported _
  · exact hunsupported _
  · exact hunsupported _
  · exact hunsupported _
  · split
    · refine (startsAsyncFunction_spec p hp).bind fun _ q hq h₁ => ?_
      split
      · refine (nextToken_spec q hq).bind fun _ r hr h₂ => ?_
        refine (functionDeclaration_spec h start _ r hr).bind fun n s hs _ => ?_
        exact Runs.pure hs fun _ hn _ _ hst _ hx =>
          Option.some.inj hx ▸ hn (hst.trans (h₁.trans h₂).tokenStart_le)
      · exact (errorAtToken_spec _ q hq).bind fun _ r hr _ => Runs.pure hr fun _ hF => hF.elim
    · exact (errorAtToken_spec _ p hp).bind fun _ q hq _ => Runs.pure hq fun _ hF => hF.elim

/-- A declaration after modifiers that started at `start`; a `declare` adds to them. -/
theorem declarationAfterModifiers_spec (start : Nat) (mods : Modifiers) :
    Spec (declarationAfterModifiers g start mods) fun p r q =>
      start ≤ p.scanner.tokenStart → ∀ n ∈ r, Node.Read start n q.prevEnd := by
  intro p hp
  unfold declarationAfterModifiers
  simp only [runs_isToken]
  split
  · refine (isGlobalAugmentation_spec p hp).bind fun _ q hq h₁ => ?_
    split
    · exact (unsupportedDeclaration_spec _ q hq).some_map.mono fun _ _ hF _ _ n hn =>
        (hF n hn).elim
    · refine (nextToken_spec q hq).bind fun _ r hr h₂ => ?_
      exact (declarationKinds_spec h start _ r hr).mono fun _ _ hn _ _ hst =>
        hn (hst.trans (h₁.trans h₂).tokenStart_le)
  · exact declarationKinds_spec h start mods p hp

end Declarations

/-! ### Imports and exports -/

section Modules

theorem moduleSpecifier_spec : Spec moduleSpecifier Reads := by
  intro p hp
  unfold moduleSpecifier
  simp only [runs_isToken]
  split
  · next hs =>
    exact (literal_spec p hp).mono fun _ _ hn => hn (by rw [beq_iff_eq.1 hs]; decide)
  · next hs =>
    exact (expect_spec (by decide) p hp).bind fun _ q hq _ =>
      (missingIdent_spec q hq).mono fun _ _ _ ⟨htok, _⟩ => absurd (beq_iff_eq.2 htok) hs

theorem importAttributes_spec : Spec importAttributes fun _ _ _ => True := by
  intro p hp
  unfold importAttributes
  simp only [runs_isToken, runs_tokenValue, runs_lineBreakBefore]
  split
  · exact (reportUnsupported_spec _ p hp).mono fun _ _ _ => trivial
  · exact Runs.pure hp fun _ => trivial

theorem specifier_spec (isImport : Bool) : Spec (specifier isImport) Reads := by
  intro p hp
  unfold specifier
  simp -zeta only [runs_tokenPos, runs_isToken]
  extract_lets jp
  have hjp : ∀ typeOnly q, Sane q → Follows p q → Runs q (jp typeOnly) (Reads p) := by
    intro typeOnly q hq h₁
    simp -zeta only [jp]
    extract_lets jpPair jpNames
    have hnames : ∀ u r, Sane r → Follows p r → Runs r (jpNames u) (Reads p) := by
      intro u r hr h₂
      simp -zeta only [jpNames]
      refine (identifierName_spec r hr).bind fun first s hs h₃ => ?_
      refine (accept_spec (by decide) s hs).bind fun _ t ht h₄ => ?_
      split
      · refine (identifierName_spec t ht).bind fun name u hu h₅ => ?_
        simp only [runs_pure_bind, jpPair, runs_lastEnd]
        refine Runs.pure hu fun _ hname _ hfirst => ?_
        have hb := ((((Built.begin p).skip h₂).read hr hfirst h₃).skip h₄).read ht hname h₅
        have hlt := ((Built.begin p).skip h₂).lt_of_read hfirst |>.trans_le (h₄.trans h₅).prevEnd_le
        split
        · exact hb.node rfl rfl rfl hlt trivial trivial
        · exact hb.node rfl rfl rfl hlt trivial trivial
      · simp only [runs_pure_bind, jpPair, runs_lastEnd]
        refine Runs.pure ht fun _ _ hfirst => ?_
        have hb := (((Built.begin p).skip h₂).read hr hfirst h₃).skip h₄
        have hlt := ((Built.begin p).skip h₂).lt_of_read hfirst |>.trans_le h₄.prevEnd_le
        split
        · exact hb.node rfl rfl rfl hlt trivial trivial
        · exact hb.node rfl rfl rfl hlt trivial trivial
    split
    · exact (nextToken_spec q hq).bind fun _ r hr h₂ =>
        (hnames () r hr (h₁.trans h₂)).mono fun _ _ hn _ => hn
    · exact hnames () q hq h₁
  split
  · exact (lookAhead_next_moves (fun _ => rfl) p hp).bind fun typeOnly q hq h₁ =>
      (hjp typeOnly q hq h₁).mono fun _ _ hn _ => hn
  · simp only [runs_pure_bind]
    exact hjp false p hp (.refl hp)

theorem namedBindings_spec (isImport : Bool) : Spec (namedBindings isImport) Reads := by
  intro p hp
  unfold namedBindings
  simp only [runs_tokenPos]
  refine (expect_spec (by decide) p hp).bind fun _ q hq h₁ => ?_
  refine (delimited_spec (specifier_spec isImport) q hq).bind fun ⟨elements, _⟩ r hr h₂ => ?_
  refine (expect_spec (by decide) r hr).bind fun _ s hs h₃ => ?_
  simp only [runs_lastEnd]
  refine Runs.pure hs fun _ _ hels ⟨_, _, hlt⟩ => ?_
  have hb := (((Built.begin p).skip h₁).add hq hels h₂).skip h₃
  split
  · exact hb.node rfl rfl rfl (hlt.trans_le (h₂.trans h₃).prevEnd_le) trivial trivial
  · exact hb.node rfl rfl rfl (hlt.trans_le (h₂.trans h₃).prevEnd_le) trivial trivial

theorem exportDeclaration_spec (start : Nat) (typeOnly : Bool) :
    Spec (exportDeclaration start typeOnly) fun p n q =>
      start < p.prevEnd → start ≤ p.scanner.tokenStart → Node.Read start n q.prevEnd := by
  intro p hp
  unfold exportDeclaration
  rw [runs_isToken]
  extract_lets jpClause
  have hclause : ∀ clause q, Sane q → Follows p q → Runs q (jpClause clause) fun n r =>
      Built start clause.toList q → start < q.prevEnd → Node.Read start n r.prevEnd := by
    intro clause q hq h₁
    simp -zeta only [jpClause]
    extract_lets needsFrom jpSpecifier
    rw [runs_isToken]
    have hspecifier : ∀ specifier r, Sane r → Follows q r → Runs r (jpSpecifier specifier)
        fun n s => Built start (clause.toList ++ specifier.toList) r → start < r.prevEnd →
          Node.Read start n s.prevEnd := by
      intro specifier r hr h₂
      simp only [jpSpecifier]
      refine (semicolon_spec r hr).bind fun _ s hs h₃ => ?_
      rw [runs_lastEnd]
      exact Runs.pure hs fun _ _ hb hlt =>
        (hb.skip h₃).node rfl rfl rfl (hlt.trans_le h₃.prevEnd_le) trivial trivial
    split
    · refine (expect_spec (by decide) q hq).bind fun _ r hr h₂ => ?_
      refine (moduleSpecifier_spec r hr).some_map.bind fun specifier s hs h₃ => ?_
      exact (hspecifier specifier s hs (h₂.trans h₃)).mono fun _ _ hn hsp _ hb hlt =>
        hn ((hb.skip h₂).opt hr hsp h₃) (hlt.trans_le (h₂.trans h₃).prevEnd_le)
    · rw [runs_pure_bind]
      exact (hspecifier none q hq (.refl hq)).mono fun _ _ hn hb hlt =>
        hn hb.none hlt
  split
  · next hstar =>
    rw [runs_tokenPos]
    refine (nextToken_spec p hp).bind fun _ q hq h₁ => ?_
    refine (accept_spec (by decide) q hq).bind fun _ r hr h₂ => ?_
    split
    · refine (identifierName_spec r hr).bind fun name s hs h₃ => ?_
      rw [runs_lastEnd, runs_pure_bind]
      refine (hclause (some (.namespaceExport ⟨p.scanner.tokenStart, s.prevEnd⟩ name)) s hs
        ((h₁.trans h₂).trans h₃)).mono fun _ _ hn hname _ ⟨_, hadv⟩ hpe hst => ?_
      have hlt : p.scanner.tokenStart < s.prevEnd :=
        (hadv (by rw [beq_iff_eq.1 hstar]; decide)).trans_le (h₂.trans h₃).prevEnd_le
      have hns : Reads p (.namespaceExport ⟨p.scanner.tokenStart, s.prevEnd⟩ name) s :=
        (((Built.begin p).skip (h₁.trans h₂)).read hr hname h₃).node rfl rfl rfl hlt trivial trivial
      exact hn ((Built.of_le hst).read hp hns ((h₁.trans h₂).trans h₃))
        (hpe.trans_le ((h₁.trans h₂).trans h₃).prevEnd_le)
    · rw [runs_pure_bind]
      exact (hclause none r hr (h₁.trans h₂)).mono fun _ _ hn _ _ hpe hst =>
        hn ((Built.of_le hst).skip (h₁.trans h₂)) (hpe.trans_le (h₁.trans h₂).prevEnd_le)
  · refine (namedBindings_spec false p hp).some_map.bind fun clause q hq h₁ => ?_
    exact (hclause clause q hq h₁).mono fun _ _ hn hcl hpe hst =>
      hn ((Built.of_le hst).opt hp hcl h₁) (hpe.trans_le h₁.prevEnd_le)

section Exports

variable (h : g.Sound)
include h

theorem exportStatement_spec :
    Spec (exportStatement g) fun p r q => ∀ n ∈ r, Reads p n q := by
  intro p hp
  unfold exportStatement
  rw [runs_tokenPos]
  refine (expect_spec (by decide) p hp).bind fun _ q hq h₁ => ?_
  rw [runs_token]
  have hdecl : ∀ mods r, Sane r → Follows q r →
      Runs r (declarationAfterModifiers g p.scanner.tokenStart mods) fun res s =>
        ∀ n ∈ res, Reads p n s := fun mods r hr h₂ =>
    (declarationAfterModifiers_spec h _ mods r hr).mono fun _ _ hn => hn (h₁.trans h₂).tokenStart_le
  have hunsupported : ∀ what, Runs q (some <$> unsupportedDeclaration what) fun res s =>
      ∀ n ∈ res, Reads p n s := fun what =>
    (unsupportedDeclaration_spec what q hq).some_map.mono fun _ _ hF n hn => (hF n hn).elim
  have hexport : ∀ typeOnly r, Sane r → Follows q r →
      Runs r (some <$> exportDeclaration p.scanner.tokenStart typeOnly) fun res s =>
        p.scanner.tokenStart < q.prevEnd → ∀ n ∈ res, Reads p n s := fun typeOnly r hr h₂ =>
    (exportDeclaration_spec _ typeOnly r hr).some_map.mono fun _ _ hn hlt n hx =>
      hn n hx (hlt.trans_le h₂.prevEnd_le) (h₁.trans h₂).tokenStart_le
  split
  · refine (nextToken_spec q hq).bind fun _ r hr h₂ => ?_
    rw [runs_isToken, runs_isToken]
    split
    · exact (hdecl _ r hr h₂).mono fun _ _ hn _ _ => hn
    rw [runs_isToken]
    extract_lets jpTail
    have htail : ∀ u s, Sane s → Follows r s → Runs s (jpTail u) fun res t =>
        p.scanner.tokenStart < q.prevEnd → ∀ n ∈ res, Reads p n t := by
      intro u s hs h₃
      simp only [jpTail, runs_isToken]
      split
      · exact (unsupportedDeclaration_spec _ s hs).bind fun _ t ht _ =>
          Runs.pure ht fun _ hF => hF.elim
      · refine (h.assignment s hs).bind fun e t ht h₄ => ?_
        refine (semicolon_spec t ht).bind fun _ u hu h₅ => ?_
        rw [runs_lastEnd]
        refine Runs.pure hu fun _ _ he hlt _ hx => Option.some.inj hx ▸ ?_
        exact (((Built.begin p).skip ((h₁.trans h₂).trans h₃)).read hs he h₄ |>.skip h₅).node
          rfl rfl rfl (hlt.trans_le (((h₂.trans h₃).trans h₄).trans h₅).prevEnd_le) trivial trivial
    split
    · refine (startsAsyncFunction_spec r hr).bind fun _ s hs h₃ => ?_
      split
      · exact (hdecl _ s hs (h₂.trans h₃)).mono fun _ _ hn _ _ _ => hn
      · exact (htail () s hs h₃).mono fun _ _ hn _ _ ⟨_, _, hlt⟩ => hn hlt
    · exact (htail () r hr (.refl hr)).mono fun _ _ hn _ ⟨_, _, hlt⟩ => hn hlt
  · exact (hexport false q hq (.refl hq)).mono fun _ _ hn ⟨_, _, hlt⟩ => hn hlt
  · exact (hexport false q hq (.refl hq)).mono fun _ _ hn ⟨_, _, hlt⟩ => hn hlt
  · refine (lookAhead_next_moves (fun _ => rfl) q hq).bind fun _ r hr h₂ => ?_
    split
    · refine (nextToken_spec r hr).bind fun _ s hs h₃ => ?_
      refine (exportDeclaration_spec _ true s hs).bind fun _ t ht _ => ?_
      exact Runs.pure ht fun _ hn _ _ ⟨_, _, hlt⟩ _ hx => Option.some.inj hx ▸
        hn (hlt.trans_le (h₂.trans h₃).prevEnd_le) (h₁.trans (h₂.trans h₃)).tokenStart_le
    · exact (hdecl _ r hr h₂).mono fun _ _ hn _ _ => hn
  · exact (hunsupported _).mono fun _ _ hn _ => hn
  · exact (hunsupported _).mono fun _ _ hn _ => hn
  · exact (hunsupported _).mono fun _ _ hn _ => hn
  · exact (hdecl _ q hq (.refl hq)).mono fun _ _ hn _ => hn

end Exports

theorem importTail_spec (start : Nat) (clause : Option Node) : Spec (do
    let spec ← moduleSpecifier
    importAttributes
    semicolon
    let stop ← lastEnd
    pure (Node.importDeclaration ⟨start, stop⟩ clause spec)) fun r n s =>
      Built start clause.toList r → start < r.prevEnd → Node.Read start n s.prevEnd := by
  intro r hr
  refine (moduleSpecifier_spec r hr).bind fun spec s hs h₁ => ?_
  refine (importAttributes_spec s hs).bind fun _ t ht h₂ => ?_
  refine (semicolon_spec t ht).bind fun _ u hu h₃ => ?_
  simp only [runs_lastEnd]
  exact Runs.pure hu fun _ _ _ hspec hb hlt => ((hb.read hr hspec h₁).skip (h₂.trans h₃)).node
    rfl rfl rfl (hlt.trans_le ((h₁.trans h₂).trans h₃).prevEnd_le) trivial trivial

theorem importClauseEnd_spec (start : Nat) {q : Parser} (hq : Sane q) (typeOnly : Bool)
    (name bindings : Option Node) {u : Parser} (hu : Sane u) (hf : Follows q u) :
    Runs u (do
      let stop ← lastEnd
      let clause := Node.importClause ⟨q.scanner.tokenStart, stop⟩ typeOnly name bindings
      let _ ← expect .fromKeyword
      let spec ← moduleSpecifier
      importAttributes
      semicolon
      let stop ← lastEnd
      pure (Node.importDeclaration ⟨start, stop⟩ (some clause) spec)) fun n v =>
        Built start [] q → start < q.prevEnd →
          Built q.scanner.tokenStart (name.toList ++ bindings.toList) u →
            q.scanner.tokenStart < u.prevEnd → Node.Read start n v.prevEnd := by
  simp only [runs_lastEnd]
  refine (expect_spec (by decide) u hu).bind fun _ v hv h₁ => ?_
  refine (importTail_spec start _ v hv).mono fun _ _ hn _ hb hlt hcb hclt => hn ?_
    (hlt.trans_le (hf.trans h₁).prevEnd_le)
  have hcl : Reads q (.importClause ⟨q.scanner.tokenStart, u.prevEnd⟩ typeOnly name bindings) u :=
    hcb.node rfl rfl rfl hclt trivial trivial
  exact (hb.read hq hcl hf).skip h₁

section Clause

variable {start : Nat} {q : Parser} {R : Node → Parser → Prop}

theorem importBindings_spec {name : Option Node} {jp : Option Node → ParserM Node}
    (hjp : ∀ bindings u, Sane u → Follows q u → Runs u (jp bindings) fun n v =>
      Built start (name.toList ++ bindings.toList) u → start < u.prevEnd → R n v)
    (follows : Bool) {u : Parser} (hu : Sane u) (hf : Follows q u) :
    Runs u (if follows then do
        let star ← isToken .asteriskToken
        if star then do
          let nsStart ← tokenPos
          nextToken
          let _ ← expect .asKeyword
          let binding ← identifier
          let stop ← lastEnd
          let bindings ← pure (some (Node.namespaceImport ⟨nsStart, stop⟩ binding))
          jp bindings
        else do
          let bindings ← some <$> namedBindings true
          jp bindings
      else do
        let bindings ← pure none
        jp bindings) fun n v =>
      Built start name.toList u → (follows = false → start < u.prevEnd) → R n v := by
  split
  · rw [runs_isToken]
    split
    · next hstar =>
      rw [runs_tokenPos]
      refine (nextToken_spec u hu).bind fun _ v hv h₁ => ?_
      refine (expect_spec (by decide) v hv).bind fun _ w hw h₂ => ?_
      refine (identifier_spec w hw).bind fun binding x hx h₃ => ?_
      rw [runs_lastEnd, runs_pure_bind]
      refine (hjp _ x hx (hf.trans ((h₁.trans h₂).trans h₃))).mono
        fun _ _ hn hbinding _ ⟨_, hadv⟩ hb _ => ?_
      have hlt : u.scanner.tokenStart < x.prevEnd :=
        (hadv (by rw [beq_iff_eq.1 hstar]; decide)).trans_le (h₂.trans h₃).prevEnd_le
      have hns : Reads u (.namespaceImport ⟨u.scanner.tokenStart, x.prevEnd⟩ binding) x :=
        (((Built.begin u).skip (h₁.trans h₂)).read hw hbinding h₃).node rfl rfl rfl hlt
          trivial trivial
      exact hn (hb.read hu hns ((h₁.trans h₂).trans h₃)) (hb.start_le.trans_lt hlt)
    · refine (namedBindings_spec true u hu).map_some.bind fun bindings v hv h₁ => ?_
      refine (hjp bindings v hv (hf.trans h₁)).mono fun _ _ hn ⟨x, hx, hread⟩ hb _ => ?_
      subst hx
      exact hn (hb.read hu hread h₁) (hb.lt_of_read hread)
  · next hfalse =>
    rw [runs_pure_bind]
    exact (hjp none u hu hf).mono fun _ _ hn hb hlt =>
      hn hb.none (hlt (Bool.eq_false_iff.2 hfalse))

theorem importFollow_spec {name : Option Node} {jp : Bool → ParserM Node}
    (hjp : ∀ follows u, Sane u → Follows q u → Runs u (jp follows) fun n v =>
      Built start name.toList u → (follows = false → start < u.prevEnd) → R n v)
    {t : Parser} (ht : Sane t) (hf : Follows q t) :
    Runs t (if name.isNone then do
        let follows ← pure true
        jp follows
      else do
        let follows ← accept .commaToken
        jp follows) fun n u =>
      Built start name.toList t → (name.isSome = true → start < t.prevEnd) → R n u := by
  split
  · rw [runs_pure_bind]
    exact (hjp true t ht hf).mono fun _ _ hn hb _ => hn hb (fun h => absurd h (by decide))
  · next hnone =>
    refine (accept_spec (by decide) t ht).bind fun follows u hu h₁ => ?_
    exact (hjp follows u hu (hf.trans h₁)).mono fun _ _ hn _ hb hsome =>
      hn (hb.skip h₁) (fun _ => (hsome (by cases name <;> simp_all)).trans_le h₁.prevEnd_le)

theorem importName_spec {jp : Option Node → ParserM Node}
    (hjp : ∀ name t, Sane t → Follows q t → Runs t (jp name) fun n u =>
      Built start name.toList t → (name.isSome = true → start < t.prevEnd) → R n u)
    {s : Parser} (hs : Sane s) (hf : Follows q s) :
    Runs s (do
      let ident ← isIdentifier
      if ident then do
        let name ← some <$> identifier
        jp name
      else do
        let name ← pure none
        jp name) fun n v => Built start [] s → R n v := by
  rw [runs_isIdentifier]
  split
  · refine (identifier_spec s hs).map_some.bind fun name t ht h₁ => ?_
    refine (hjp name t ht (hf.trans h₁)).mono fun _ _ hn ⟨x, hx, hread⟩ hb => ?_
    subst hx
    exact hn (hb.read hs hread h₁) (fun _ => hb.lt_of_read hread)
  · rw [runs_pure_bind]
    exact (hjp none s hs hf).mono fun _ _ hn hb => hn hb (fun h => absurd h (by decide))

end Clause

/-- An import declaration: a module specifier alone, or a clause of a default name and bindings,
then `from` and the specifier. The clause is never empty: a default name or bindings stand in
it. -/
theorem importDeclaration_spec : Spec importDeclaration Reads := by
  intro p hp
  unfold importDeclaration
  rw [runs_tokenPos]
  refine (expect_spec (by decide) p hp).bind fun _ q hq h₁ => ?_
  have hbegin : Built p.scanner.tokenStart [] q := (Built.begin p).skip h₁
  rw [runs_isToken]
  split
  · exact (importTail_spec _ none q hq).mono fun _ _ hn ⟨_, _, hlt⟩ => hn hbegin hlt
  rw [runs_tokenPos, runs_isToken]
  extract_lets jpTypeOnly
  have hclause : ∀ typeOnly r, Sane r → Follows q r → Runs r (jpTypeOnly typeOnly) fun n s =>
      p.scanner.tokenStart < q.prevEnd → Reads p n s := by
    intro typeOnly r hr h₂
    simp -zeta only [jpTypeOnly]
    extract_lets jpName jpR
    have hname : ∀ name t, Sane t → Follows q t → Runs t (jpName name) fun n u =>
        Built q.scanner.tokenStart name.toList t →
          (name.isSome = true → q.scanner.tokenStart < t.prevEnd) →
            p.scanner.tokenStart < q.prevEnd → Reads p n u := by
      intro name t ht h₃
      simp -zeta only [jpName]
      extract_lets jpBindings jpFollow
      refine importFollow_spec (fun follows u hu h₄ =>
        importBindings_spec (fun bindings v hv h₅ => ?_) follows hu h₄) ht h₃
      exact (importClauseEnd_spec _ hq typeOnly name bindings hv h₅).mono
        fun _ _ hn hb hlt hstart => hn hbegin hstart hb hlt
    split
    · refine (nextToken_spec r hr).bind fun _ s hs h₃ => ?_
      exact (importName_spec hname hs (h₂.trans h₃)).mono fun _ _ hn _ =>
        hn ((Built.of_le h₂.tokenStart_le).skip h₃)
    · exact (importName_spec hname hr h₂).mono fun _ _ hn => hn (Built.of_le h₂.tokenStart_le)
  split
  · refine (lookAhead_next_moves (fun _ => rfl) q hq).bind fun typeOnly r hr h₂ => ?_
    exact (hclause typeOnly r hr h₂).mono fun _ _ hn _ ⟨_, _, hlt⟩ => hn hlt
  · rw [runs_pure_bind]
    exact (hclause false q hq (.refl hq)).mono fun _ _ hn ⟨_, _, hlt⟩ => hn hlt

end Modules

end Parser

end ParamNarrow
