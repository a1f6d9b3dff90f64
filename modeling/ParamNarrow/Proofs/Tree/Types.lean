import ParamNarrow.Proofs.Tree.Steps
/-!
# Names, patterns and types read well formed

From a grammar whose entry points read well-formed nodes (`Grammar.Sound`), every rule for
names, binding patterns, signatures and types reads well-formed nodes too: each node spans from
the token where its rule began to the end of the last token the rule consumed, and its children
were read one after the other in between.
-/

namespace ParamNarrow

namespace Parser

variable {g : Grammar}

/-! ### Names and binding patterns -/

section Bindings

variable (h : g.Sound)
include h

theorem propertyName_spec : Spec (propertyName g) Reads := by
  intro p hp
  unfold propertyName
  simp only [runs_token]
  split
  next _ htok => exact (literal_spec p hp).mono fun _ _ hr => hr (by rw [htok]; decide)
  next _ htok => exact (literal_spec p hp).mono fun _ _ hr => hr (by rw [htok]; decide)
  next _ htok => exact (literal_spec p hp).mono fun _ _ hr => hr (by rw [htok]; decide)
  next _ htok =>
    simp only [runs_tokenPos]
    refine (nextToken_spec p hp).bind fun _ q hq h₁ => ?_
    refine (h.assignment q hq).bind fun e r hr h₂ => ?_
    refine (expect_spec (by decide) r hr).bind fun _ s hs h₃ => ?_
    simp only [runs_lastEnd]
    refine Runs.pure hs fun _ _ he ⟨_, hadv⟩ => ?_
    have hlt := (hadv (by rw [htok]; decide)).trans_le (h₂.trans h₃).prevEnd_le
    exact Node.Read.node rfl rfl hlt (he.widen h₁ h₃).all trivial trivial
  next =>
    exact (reportUnsupported_spec _ p hp).bind fun _ q hq _ =>
      (nextToken_spec q hq).bind fun _ r hr _ =>
        (identifierName_spec r hr).mono fun _ _ _ _ h => h.elim
  next => exact identifierName_spec p hp

theorem initializer_spec : Spec (initializer g) fun p r q => ∀ x ∈ r, Reads p x q := by
  intro p hp
  unfold initializer
  refine (accept_spec (by decide) p hp).bind fun b q hq h₁ => ?_
  split
  · exact (h.assignment q hq).bind fun e r hr h₂ =>
      Runs.pure hr fun _ he _ _ hx => Option.some.inj hx ▸ he.widen h₁ (.refl hr)
  · exact Runs.pure hq fun _ _ _ hx => nomatch hx

theorem bindingElement_tail_spec (start : Nat) (rest : Bool) (key : Option Node) (name : Node) :
    Spec (do
        let init ← initializer g
        let stop ← lastEnd
        pure (Node.bindingElement ⟨start, stop⟩ rest key name init))
      fun q n r => Built start ([] ++ key.toList ++ [name]) q → start < q.prevEnd →
        Node.Read start n r.prevEnd := by
  intro q hq
  refine (initializer_spec h q hq).bind fun init r hr h₁ => ?_
  simp only [runs_lastEnd]
  exact Runs.pure hr fun _ hi hb hlt =>
    (hb.opt hq hi h₁).node rfl rfl rfl (hlt.trans_le h₁.prevEnd_le) trivial trivial

theorem objectBindingElement_spec : Spec (objectBindingElement g) Reads := by
  intro p hp
  unfold objectBindingElement
  simp only [runs_tokenPos]
  have hb₀ := Built.begin p
  refine (accept_spec (by decide) p hp).bind fun rest q hq h₁ => ?_
  split
  · refine (identifier_spec q hq).bind fun name r hr h₂ => ?_
    simp only [runs_pure_bind]
    exact (bindingElement_tail_spec h _ rest none name r hr).mono fun _ _ ht hn _ =>
      ht ((hb₀.skip h₁).read hq hn h₂) ((hb₀.skip h₁).lt_of_read hn)
  · simp only [runs_isIdentifier]
    refine (propertyName_spec h q hq).bind fun key r hr h₂ => ?_
    refine (accept_spec (by decide) r hr).bind fun b s hs h₃ => ?_
    split
    · refine (h.bindingName s hs).bind fun name t ht h₄ => ?_
      simp only [runs_pure_bind]
      exact (bindingElement_tail_spec h _ rest (some key) name t ht).mono fun _ _ hel hn _ hk _ =>
        have hb := (hb₀.skip h₁).read hq hk h₂
        hel ((hb.skip h₃).read hs hn h₄) (((hb₀.skip h₁).lt_of_read hk).trans_le
          (h₃.trans h₄).prevEnd_le)
    · have htail : ∀ t, Sane t → Follows r t → Runs t (do
          let init ← initializer g
          let stop ← lastEnd
          pure (Node.bindingElement ⟨p.scanner.tokenStart, stop⟩ rest none key init))
          fun n u => Reads q key r → Reads p n u := fun t ht h₄ =>
        (bindingElement_tail_spec h _ rest none key t ht).mono fun _ _ hel hk =>
          have hb := (hb₀.skip h₁).read hq hk h₂
          hel (hb.skip h₄) (((hb₀.skip h₁).lt_of_read hk).trans_le h₄.prevEnd_le)
      split
      · refine (expect_spec (by decide) s hs).bind fun _ t ht h₄ => ?_
        simp only [runs_pure_bind]
        exact (htail t ht (h₃.trans h₄)).mono fun _ _ hel _ _ hk _ => hel hk
      · simp only [runs_pure_bind]
        exact (htail s hs h₃).mono fun _ _ hel _ hk _ => hel hk

theorem objectBindingPattern_spec : Spec (objectBindingPattern g) Reads := by
  intro p hp
  unfold objectBindingPattern
  simp only [runs_tokenPos]
  refine (expect_spec (by decide) p hp).bind fun _ q hq h₁ => ?_
  refine (delimited_spec (objectBindingElement_spec h) q hq).bind
    fun ⟨elements, _⟩ r hr h₂ => ?_
  refine (expect_spec (by decide) r hr).bind fun _ s hs h₃ => ?_
  simp only [runs_lastEnd]
  exact Runs.pure hs fun _ _ hel ⟨_, _, hadv⟩ =>
    ((((Built.begin p).skip h₁).add hq hel h₂).skip h₃).node rfl rfl rfl
      (hadv.trans_le (h₂.trans h₃).prevEnd_le) trivial trivial

theorem arrayBindingElements_spec (start : Nat) : ∀ (n : Nat) (acc : List Node) (p : Parser),
    Sane p → Runs p (arrayBindingElements g n acc) fun r q =>
      Built start acc.reverse p → Built start r q
  | 0, acc, p, hp => Runs.pure hp fun _ hb => hb
  | n + 1, acc, p, hp => by
    unfold arrayBindingElements
    simp only [runs_isToken]
    split
    · exact Runs.pure hp fun _ hb => hb
    simp only [runs_isToken]
    split
    · next htok =>
      simp only [runs_tokenPos]
      refine (nextToken_spec p hp).bind fun _ q hq h₁ => ?_
      refine (arrayBindingElements_spec start n _ q hq).mono fun _ _ hl ⟨_, hadv⟩ hb => hl ?_
      rw [List.reverse_cons]
      exact hb.omitted hp h₁ (hadv (by simp_all)).le
    · simp only [runs_tokenPos]
      refine (accept_spec (by decide) p hp).bind fun rest q hq h₁ => ?_
      refine (h.bindingName q hq).bind fun name r hr h₂ => ?_
      refine (initializer_spec h r hr).bind fun init s hs h₃ => ?_
      simp only [runs_lastEnd]
      have hgrow : Reads q name r → (∀ x ∈ init, Reads r x s) → Built start acc.reverse p →
          Built start (Node.bindingElement ⟨p.scanner.tokenStart, s.prevEnd⟩ rest none name init
            :: acc).reverse s := fun hn hi hb => by
        have he := (((Built.begin p).skip h₁).read hq hn h₂).opt hr hi h₃
        rw [List.reverse_cons]
        exact hb.read hp (he.node rfl rfl rfl
          ((((Built.begin p).skip h₁).lt_of_read hn).trans_le h₃.prevEnd_le) trivial trivial)
          ((h₁.trans h₂).trans h₃)
      refine (accept_spec (by decide) s hs).bind fun b t ht h₄ => ?_
      split
      · exact (arrayBindingElements_spec start n _ t ht).mono fun _ _ hl _ hi hn _ hb =>
          hl ((hgrow hn hi hb).skip h₄)
      · exact Runs.pure ht fun _ _ hi hn _ hb => by
          exact (hgrow hn hi hb).skip h₄

theorem arrayBindingPattern_spec : Spec (arrayBindingPattern g) Reads := by
  intro p hp
  unfold arrayBindingPattern
  simp only [runs_tokenPos]
  refine (expect_spec (by decide) p hp).bind fun _ q hq h₁ => ?_
  simp only [runs_budget]
  refine (arrayBindingElements_spec h p.scanner.tokenStart (q.scanner.size + 2) [] q hq).bind
    fun elements r hr h₂ => ?_
  refine (expect_spec (by decide) r hr).bind fun _ s hs h₃ => ?_
  simp only [runs_lastEnd]
  exact Runs.pure hs fun _ _ hel ⟨_, _, hadv⟩ =>
    ((hel ((Built.begin p).skip h₁)).skip h₃).node rfl rfl rfl
      (hadv.trans_le (h₂.trans h₃).prevEnd_le) trivial trivial

theorem bindingName_spec : Spec (bindingName g) Reads := by
  intro p hp
  unfold bindingName
  simp only [runs_token]
  split
  · exact objectBindingPattern_spec h p hp
  · exact arrayBindingPattern_spec h p hp
  · exact identifier_spec p hp

end Bindings

/-! ### Names and signatures -/

section Signatures

variable (h : g.Sound)
include h

omit h in
theorem unsupportedType_spec (what : String) :
    Spec (unsupportedType what) fun _ _ _ => False := by
  intro p hp
  unfold unsupportedType
  exact (reportUnsupported_spec what p hp).bind fun _ q hq _ =>
    (missingIdent_spec q hq).bind fun _ r hr _ =>
      (nextToken_spec r hr).bind fun _ s hs _ => Runs.pure hs fun _ _ _ h => h

omit h in
theorem qualifiedRest_spec (start : Nat) : ∀ (n : Nat) (name : Node) (p : Parser), Sane p →
    Runs p (qualifiedRest start n name) fun r q =>
      Node.Read start name p.prevEnd → start ≤ p.scanner.tokenStart → Node.Read start r q.prevEnd
  | 0, name, p, hp => Runs.pure hp fun _ hn _ => hn
  | n + 1, name, p, hp => by
    unfold qualifiedRest
    refine (accept_spec (by decide) p hp).bind fun b q hq h₁ => ?_
    split
    · refine (identifierName_spec q hq).bind fun right r hr h₂ => ?_
      simp only [runs_lastEnd]
      refine (qualifiedRest_spec start n _ r hr).mono fun _ _ hl hright _ hn hs => hl ?_ ?_
      · have hb : Built start [name] p := ⟨hn.all, hs⟩
        exact ((hb.skip h₁).read hq hright h₂).node rfl rfl rfl
          ((hn.lt.trans_le (h₁.trans h₂).prevEnd_le)) trivial trivial
      · exact hs.trans (h₁.trans h₂).tokenStart_le
    · exact Runs.pure hq fun _ _ hn _ => hn.mono (Nat.le_refl _) h₁.prevEnd_le

omit h in
theorem entityName_spec (allowThis : Bool) : Spec (entityName allowThis) Reads := by
  intro p hp
  unfold entityName
  simp only [runs_tokenPos, runs_isToken]
  refine Runs.ite_bind (identifierName_spec p hp) (identifier_spec p hp) fun first q hq h₁ => ?_
  simp only [runs_budget]
  exact (qualifiedRest_spec p.scanner.tokenStart _ first q hq).mono fun _ _ hl hf =>
    hl hf h₁.tokenStart_le

theorem typeArguments_spec : Spec (typeArguments g) fun p r q => ∀ xs ∈ r, ReadsAll p xs q := by
  intro p hp
  unfold typeArguments
  simp only [runs_isToken]
  split
  · exact Runs.pure hp fun _ _ hx => nomatch hx
  refine (nextToken_spec p hp).bind fun _ q hq h₁ => ?_
  refine (delimited_spec h.type q hq).bind fun ⟨args, _⟩ r hr h₂ => ?_
  refine (expect_spec (by decide) r hr).bind fun _ s hs h₃ => ?_
  exact Runs.pure hs fun _ _ hargs _ _ hx =>
    Option.some.inj hx ▸ ((((Built.begin p).skip h₁).add hq hargs h₂).skip h₃).kids

theorem typeReference_spec : Spec (typeReference g) fun p n q => Reads p n q ∧ n.typeLevel = 4 := by
  intro p hp
  unfold typeReference
  simp only [runs_tokenPos]
  refine (entityName_spec false p hp).bind fun name q hq h₁ => ?_
  simp only [runs_isToken, runs_lineBreakBefore]
  refine Runs.ite_bind (typeArguments_spec h q hq) (Runs.pure hq fun _ xs hx => nomatch hx)
    fun args r hr h₂ => ?_
  simp only [runs_lastEnd]
  exact Runs.pure hr fun _ hargs hn =>
    ⟨(((Built.begin p).read hp hn h₁).add hq (Node.ReadAll.optList hargs) h₂).node rfl rfl rfl
      ((Built.begin p).lt_of_read hn |>.trans_le h₂.prevEnd_le) trivial trivial, rfl⟩

theorem typeParameter_tail_spec (start : Nat) :
    Spec (do
        let name ← identifier
        let constraint ← if ← accept .extendsKeyword then some <$> g.type else pure none
        let default ← if ← accept .equalsToken then some <$> g.type else pure none
        return Node.typeParameter ⟨start, ← lastEnd⟩ name constraint default)
      fun q n r => start ≤ q.scanner.tokenStart → Node.Read start n r.prevEnd := by
  intro q hq
  refine (identifier_spec q hq).bind fun name r hr h₁ => ?_
  refine (accept_spec (by decide) r hr).bind fun _ s hs h₂ => ?_
  refine Runs.optional hs h.type fun c t ht h₃ => ?_
  refine (accept_spec (by decide) t ht).bind fun _ u hu h₄ => ?_
  refine Runs.optional hu h.type fun d v hv h₅ => ?_
  simp only [runs_lastEnd]
  exact Runs.pure hv fun _ hd _ hc _ hn hs₀ =>
    (((((Built.of_le hs₀).read hq hn h₁).skip h₂).opt hs hc h₃).skip h₄ |>.opt hu hd h₅).node
      rfl rfl rfl ((Built.of_le hs₀).lt_of_read hn |>.trans_le
        (((h₂.trans h₃).trans h₄).trans h₅).prevEnd_le) trivial trivial

theorem typeParameter_spec : Spec (typeParameter g) Reads := by
  intro p hp
  unfold typeParameter
  simp only [runs_tokenPos, runs_token]
  have htail := fun q hq (h₁ : Follows p q) =>
    (typeParameter_tail_spec h p.scanner.tokenStart q hq).mono fun _ _ hn => hn h₁.tokenStart_le
  split
  · refine (lookAhead_spec (nextToken_moves.bind fun _ => .read fun _ => rfl) p hp).bind
      fun b q hq h₁ => ?_
    split
    · exact (reportUnsupported_spec _ q hq).bind fun _ r hr h₂ =>
        (nextToken_spec r hr).bind fun _ s hs h₃ =>
          (htail s hs ((h₁.trans h₂).trans h₃)).mono fun _ _ _ _ h _ => h.elim
    · exact (htail q hq h₁).mono fun _ _ hn _ => hn
  · exact htail p hp (.refl hp)

theorem typeParameters_spec :
    Spec (typeParameters g) fun p r q => ∀ xs ∈ r, ReadsAll p xs q := by
  intro p hp
  unfold typeParameters
  simp only [runs_isToken]
  split
  · exact Runs.pure hp fun _ _ hx => nomatch hx
  refine (nextToken_spec p hp).bind fun _ q hq h₁ => ?_
  refine (delimited_spec (typeParameter_spec h) q hq).bind fun ⟨params, _⟩ r hr h₂ => ?_
  refine (expect_spec (by decide) r hr).bind fun _ s hs h₃ => ?_
  exact Runs.pure hs fun _ _ hps _ _ hx =>
    Option.some.inj hx ▸ ((((Built.begin p).skip h₁).add hq hps h₂).skip h₃).kids

theorem parameter_tail_spec (start : Nat) :
    Spec (do
        let rest ← accept .dotDotDotToken
        let name ← if ← isToken .thisKeyword then identifierName else g.bindingName
        let question ← accept .questionToken
        let type ← if ← accept .colonToken then some <$> g.type else pure none
        let init ← initializer g
        return Node.parameter ⟨start, ← lastEnd⟩ rest name question type init)
      fun q n r => start ≤ q.scanner.tokenStart → Node.Read start n r.prevEnd := by
  intro q hq
  refine (accept_spec (by decide) q hq).bind fun rest r hr h₁ => ?_
  simp only [runs_isToken]
  refine Runs.ite_bind (identifierName_spec r hr) (h.bindingName r hr) fun name s hs h₂ => ?_
  refine (accept_spec (by decide) s hs).bind fun question t ht h₃ => ?_
  refine (accept_spec (by decide) t ht).bind fun _ u hu h₄ => ?_
  refine Runs.optional hu h.type fun type v hv h₅ => ?_
  refine (initializer_spec h v hv).bind fun init w hw h₆ => ?_
  simp only [runs_lastEnd]
  exact Runs.pure hw fun _ hi ht' _ _ hn _ hs₀ =>
    have hb := ((Built.of_le hs₀).skip h₁).read hr hn h₂
    ((((hb.skip h₃).skip h₄).opt hu ht' h₅).opt hv hi h₆).node rfl rfl rfl
      (((Built.of_le hs₀).skip h₁).lt_of_read hn |>.trans_le
        ((((h₃.trans h₄).trans h₅).trans h₆)).prevEnd_le) trivial trivial

theorem parameter_modifier_spec (start : Nat) :
    Spec (do
        let k ← token
        if k == .publicKeyword || k == .privateKeyword || k == .protectedKeyword
            || k == .readonlyKeyword then
          if ← lookAhead (do nextToken; return (← isIdentifier) || (← isToken .openBraceToken)) then
            reportUnsupported "parameter property"
            nextToken
        let rest ← accept .dotDotDotToken
        let name ← if ← isToken .thisKeyword then identifierName else g.bindingName
        let question ← accept .questionToken
        let type ← if ← accept .colonToken then some <$> g.type else pure none
        let init ← initializer g
        return Node.parameter ⟨start, ← lastEnd⟩ rest name question type init)
      fun q n r => start ≤ q.scanner.tokenStart → Node.Read start n r.prevEnd := by
  intro q hq
  simp only [runs_token]
  have htail := fun r hr (h₁ : Follows q r) => (parameter_tail_spec h start r hr).mono
    fun _ _ hn (hs : start ≤ q.scanner.tokenStart) => hn (hs.trans h₁.tokenStart_le)
  split
  · refine (lookAhead_spec (nextToken_moves.bind fun _ => .read fun _ => rfl) q hq).bind
      fun b r hr h₁ => ?_
    split
    · exact (reportUnsupported_spec _ r hr).bind fun _ s hs h₂ =>
        (nextToken_spec s hs).bind fun _ t ht h₃ =>
          (htail t ht ((h₁.trans h₂).trans h₃)).mono fun _ _ _ _ h _ => h.elim
    · exact (htail r hr h₁).mono fun _ _ hn _ => hn
  · exact htail q hq (.refl hq)

theorem parameter_spec : Spec (parameter g) Reads := by
  intro p hp
  unfold parameter
  simp only [runs_tokenPos, runs_isToken]
  have htail := fun q hq (h₁ : Follows p q) =>
    (parameter_modifier_spec h p.scanner.tokenStart q hq).mono fun _ _ hn => hn h₁.tokenStart_le
  split
  · exact (reportUnsupported_spec _ p hp).bind fun _ q hq h₁ =>
      (nextToken_spec q hq).bind fun _ r hr h₂ =>
        (htail r hr (h₁.trans h₂)).mono fun _ _ _ _ h => h.elim
  · exact htail p hp (.refl hp)

theorem parameters_spec :
    Spec (parameters g) fun p r q => ReadsAll p r.1 q ∧ p.scanner.tokenStart < q.prevEnd := by
  intro p hp
  unfold parameters
  refine (expect_spec (by decide) p hp).bind fun _ q hq h₁ => ?_
  refine (delimited_spec (parameter_spec h) q hq).bind fun params r hr h₂ => ?_
  refine (expect_spec (by decide) r hr).bind fun _ s hs h₃ => ?_
  exact Runs.pure hs fun _ _ hps ⟨_, _, hadv⟩ =>
    ⟨((((Built.begin p).skip h₁).add hq hps h₂).skip h₃).kids,
      hadv.trans_le (h₂.trans h₃).prevEnd_le⟩

theorem typePredicate_tail_spec (start : Nat) (asserts : Bool) :
    Spec (do
        let name ← identifierName
        let type ← if ← accept .isKeyword then some <$> g.type else pure none
        return Node.typePredicate ⟨start, ← lastEnd⟩ asserts name type)
      fun q n r => start ≤ q.scanner.tokenStart → Node.Read start n r.prevEnd := by
  intro q hq
  refine (identifierName_spec q hq).bind fun name r hr h₁ => ?_
  refine (accept_spec (by decide) r hr).bind fun _ s hs h₂ => ?_
  refine Runs.optional hs h.type fun type t ht h₃ => ?_
  simp only [runs_lastEnd]
  exact Runs.pure ht fun _ hty _ hn hs₀ =>
    ((((Built.of_le hs₀).read hq hn h₁).skip h₂).opt hs hty h₃).node rfl rfl rfl
      ((Built.of_le hs₀).lt_of_read hn |>.trans_le (h₂.trans h₃).prevEnd_le) trivial trivial

theorem returnType_spec : Spec (returnType g) Reads := by
  intro p hp
  unfold returnType
  simp only [runs_tokenPos, runs_isToken]
  have hlook : ∀ {m : ParserM Bool} q, Sane q → (∀ p, (m.run p).2 = p) →
      Runs q (lookAhead (nextToken >>= fun _ => m)) fun _ _ => True :=
    fun q hq hm => lookAhead_moves (nextToken_moves.bind fun _ => .read hm) q hq
  refine Runs.ite_bind (hlook p hp fun _ => rfl) (Runs.pure hp fun _ => trivial)
    fun asserts q hq h₁ => ?_
  simp only [runs_isIdentifier, runs_isToken]
  refine Runs.ite_bind (hlook q hq fun _ => rfl) (Runs.pure hq fun _ => trivial)
    fun predicate r hr h₂ => ?_
  have htail := fun s hs (h₃ : Follows r s) =>
    (typePredicate_tail_spec h p.scanner.tokenStart asserts s hs).mono fun _ _ hn =>
      hn ((h₁.trans h₂).trans h₃).tokenStart_le
  split
  · exact (h.type r hr).mono fun _ _ hn _ _ => hn.since (h₁.trans h₂)
  · split
    · exact (nextToken_spec r hr).bind fun _ s hs h₃ =>
        (htail s hs h₃).mono fun _ _ hn _ _ _ => hn
    · exact (htail r hr (.refl hr)).mono fun _ _ hn _ _ => hn

end Signatures

/-! ### Members of object types -/

section Members

variable (h : g.Sound)
include h

theorem signatureMember_spec (kind : SignatureKind) (start : Nat) (mods : Modifiers)
    (name : Option Node) (question : Bool) :
    Spec (signatureMember g kind start mods name question) fun q n r =>
      Built start name.toList q → Node.Read start n r.prevEnd := by
  intro q hq
  unfold signatureMember
  refine (typeParameters_spec h q hq).bind fun tps r hr h₁ => ?_
  refine (parameters_spec h r hr).bind fun ⟨params, _⟩ s hs h₂ => ?_
  refine (accept_spec (by decide) s hs).bind fun _ t ht h₃ => ?_
  refine Runs.optional ht (returnType_spec h) fun type u hu h₄ => ?_
  simp only [runs_lastEnd]
  exact Runs.pure hu fun _ hty _ ⟨hps, hlt⟩ htps hb =>
    ((((hb.add hq (Node.ReadAll.optList htps) h₁).add hr hps h₂).skip h₃).opt ht hty h₄).node
      rfl rfl rfl (((hb.skip h₁).start_le.trans_lt hlt).trans_le (h₃.trans h₄).prevEnd_le)
      trivial trivial

omit h in
theorem startsIndexSignature_spec : Spec startsIndexSignature fun _ _ _ => True := by
  refine lookAhead_moves ?_
  repeat' first
    | with_reducible exact Moves.pure _ | with_reducible exact nextToken_moves
    | with_reducible exact accept_moves _ | split | dsimp only | with_reducible apply Moves.bind
    | exact Moves.read fun _ => rfl | intro _

omit h in
theorem startsMemberName_spec : Spec startsMemberName fun _ _ _ => True := by
  refine lookAhead_moves ?_
  repeat' first
    | with_reducible exact Moves.pure _ | with_reducible exact nextToken_moves
    | with_reducible exact accept_moves _ | split | dsimp only | with_reducible apply Moves.bind
    | exact Moves.read fun _ => rfl | intro _

theorem indexSignature_spec (start : Nat) (mods : Modifiers) :
    Spec (indexSignature g start mods) fun q n r =>
      start ≤ q.scanner.tokenStart → Node.Read start n r.prevEnd := by
  intro q hq
  unfold indexSignature
  refine (expect_spec (by decide) q hq).bind fun _ r hr h₁ => ?_
  simp only [runs_tokenPos]
  refine (identifier_spec r hr).bind fun name s hs h₂ => ?_
  refine (expect_spec (by decide) s hs).bind fun _ t ht h₃ => ?_
  refine (h.type t ht).bind fun keyType u hu h₄ => ?_
  simp only [runs_lastEnd]
  refine (expect_spec (by decide) u hu).bind fun _ v hv h₅ => ?_
  refine (expect_spec (by decide) v hv).bind fun _ w hw h₆ => ?_
  refine (h.type w hw).bind fun type x hx h₇ => ?_
  simp only [runs_lastEnd]
  refine Runs.pure hx fun _ hty _ _ hkt _ hn ⟨_, _, hadv⟩ hs₀ => ?_
  have hkey := (((Built.begin r).read hr hn h₂).skip h₃ |>.read ht hkt h₄).node
    (n := Node.parameter ⟨r.scanner.tokenStart, u.prevEnd⟩ false name false (some keyType) none)
    rfl rfl rfl ((Built.begin r).lt_of_read hn |>.trans_le (h₃.trans h₄).prevEnd_le) trivial trivial
  exact (((((Built.of_le hs₀).skip h₁).read hr hkey ((h₂.trans h₃).trans h₄)).skip
    (h₅.trans h₆)).read hw hty h₇).node rfl rfl rfl
    (hs₀.trans_lt hadv |>.trans_le ((((((h₂.trans h₃).trans h₄).trans h₅).trans h₆).trans
      h₇)).prevEnd_le) trivial trivial

theorem typeMember_spec : Spec (typeMember g) Reads := by
  intro p hp
  unfold typeMember
  simp -zeta only [runs_tokenPos, runs_isToken]
  have hsig : ∀ kind mods name question q, Sane q → Follows p q →
      Runs q (signatureMember g kind p.scanner.tokenStart mods name question)
        fun n r => Built p.scanner.tokenStart name.toList q → Reads p n r :=
    fun _ _ _ _ q hq _ => signatureMember_spec h _ _ _ _ _ q hq
  split
  · exact (hsig _ _ none false p hp (.refl hp)).mono fun _ _ hn => hn (Built.begin p)
  extract_lets jpR jpU
  have hR : ∀ readonly q, Sane q → Follows p q → Runs q (jpR readonly) fun n r => Reads p n r := by
    intro readonly q hq h₁
    simp -zeta only [jpR]
    extract_lets mods jpA jpB
    have hA : ∀ u r, Sane r → Follows p r → Runs r (jpA u) fun n s => Reads p n s := by
      intro u r hr h₂
      simp -zeta only [jpA]
      refine (propertyName_spec h r hr).bind fun name s hs h₃ => ?_
      refine (accept_spec (by decide) s hs).bind fun question t ht h₄ => ?_
      have hb := fun (hname : Reads r name s) => (Built.of_le h₂.tokenStart_le).read hr hname h₃
      simp only [runs_isToken]
      split
      · exact (hsig _ _ (some name) question t ht ((h₂.trans h₃).trans h₄)).mono
          fun _ _ hn _ hname => hn ((hb hname).skip h₄)
      · refine (accept_spec (by decide) t ht).bind fun _ u hu h₅ => ?_
        refine Runs.optional hu h.type fun type v hv h₆ => ?_
        simp only [runs_lastEnd]
        exact Runs.pure hv fun _ hty _ _ hname =>
          ((((hb hname).skip h₄).skip h₅).opt hu hty h₆).node rfl rfl rfl
            ((Built.of_le h₂.tokenStart_le).lt_of_read hname |>.trans_le
              ((h₄.trans h₅).trans h₆).prevEnd_le) trivial trivial
    have hB : ∀ u r, Sane r → Follows p r → Runs r (jpB u) fun n s => Reads p n s := by
      intro u r hr h₂
      simp -zeta only [jpB, runs_isToken]
      split
      · refine (startsIndexSignature_spec r hr).bind fun b s hs h₃ => ?_
        split
        · exact (indexSignature_spec h _ _ s hs).mono fun _ _ hn _ =>
            hn (h₂.trans h₃).tokenStart_le
        · exact (hA () s hs (h₂.trans h₃)).mono fun _ _ hn _ => hn
      · exact hA () r hr h₂
    simp only [runs_isToken]
    split
    · refine (startsMemberName_spec q hq).bind fun b r hr h₂ => ?_
      split
      · exact (reportUnsupported_spec _ r hr).bind fun _ s hs h₃ =>
          (nextToken_spec s hs).bind fun _ t ht h₄ =>
            (hB () t ht (((h₁.trans h₂).trans h₃).trans h₄)).mono fun _ _ _ _ hF _ => hF.elim
      · exact (hB () r hr (h₁.trans h₂)).mono fun _ _ hn _ => hn
    · exact hB () q hq h₁
  have hU : ∀ u q, Sane q → Follows p q → Runs q (jpU u) fun n r => Reads p n r := by
    intro u q hq h₁
    simp -zeta only [jpU, runs_isToken]
    split
    · refine (startsMemberName_spec q hq).bind fun b r hr h₂ => ?_
      split
      · refine (nextToken_spec r hr).bind fun _ s hs h₃ => ?_
        simp only [runs_pure_bind]
        exact (hR true s hs ((h₁.trans h₂).trans h₃)).mono fun _ _ hn _ _ => hn
      · simp only [runs_pure_bind]
        exact (hR false r hr (h₁.trans h₂)).mono fun _ _ hn _ => hn
    · simp only [runs_pure_bind]
      exact hR false q hq h₁
  simp only [runs_isToken]
  split
  · refine (lookAhead_spec (nextToken_moves.bind fun _ => .read fun _ => rfl) p hp).bind
      fun b q hq h₁ => ?_
    split
    · exact (reportUnsupported_spec _ q hq).bind fun _ r hr h₂ =>
        (nextToken_spec r hr).bind fun _ s hs h₃ =>
          (hsig _ _ none false s hs ((h₁.trans h₂).trans h₃)).mono fun _ _ _ _ hF _ => hF.elim
    · exact (hU () q hq h₁).mono fun _ _ hn _ => hn
  · exact hU () p hp (.refl hp)

theorem typeMemberList_spec (start : Nat) : ∀ (n : Nat) (acc : List Node) (p : Parser), Sane p →
    Runs p (typeMemberList g n acc) fun r q => Built start acc.reverse p → Built start r q
  | 0, acc, p, hp => Runs.pure hp fun _ hb => hb
  | n + 1, acc, p, hp => by
    unfold typeMemberList
    simp -zeta only [runs_isToken]
    split
    · exact Runs.pure hp fun _ hb => hb
    simp -zeta only [runs_tokenPos]
    refine (typeMember_spec h p hp).bind fun member q hq h₁ => ?_
    refine Runs.mono (Q := fun b r => Built start (member :: acc).reverse q → Built start b r)
      ?_ fun _ _ hl hm hb => hl (by rw [List.reverse_cons]; exact hb.read hp hm h₁)
    refine (accept_spec (by decide) q hq).bind fun b r hr h₂ => ?_
    extract_lets jpRec jpPos
    have hRec : ∀ u s, Sane s → Follows q s → Runs s (jpRec u)
        fun l t => Built start (member :: acc).reverse q → Built start l t := fun u s hs h₃ =>
      (typeMemberList_spec start n (member :: acc) s hs).mono fun _ _ hl hb => hl (hb.skip h₃)
    have hPos : ∀ u s, Sane s → Follows q s → Runs s (jpPos u)
        fun l t => Built start (member :: acc).reverse q → Built start l t := by
      intro u s hs h₃
      simp -zeta only [jpPos, runs_tokenPos]
      split
      · exact (nextToken_spec s hs).bind fun _ t ht h₄ =>
          (hRec () t ht (h₃.trans h₄)).mono fun _ _ hl _ => hl
      · exact hRec () s hs h₃
    split
    · refine (accept_spec (by decide) r hr).bind fun c s hs h₃ => ?_
      split
      · simp only [runs_isToken, runs_lineBreakBefore]
        split
        · exact (expect_spec (by decide) s hs).bind fun _ t ht h₄ =>
            (hPos () t ht (((h₂.trans h₃).trans h₄))).mono fun _ _ hl _ _ _ => hl
        · exact (hPos () s hs (h₂.trans h₃)).mono fun _ _ hl _ _ => hl
      · exact (hPos () s hs (h₂.trans h₃)).mono fun _ _ hl _ _ => hl
    · exact (hPos () r hr h₂).mono fun _ _ hl _ => hl

theorem typeMembers_spec : Spec (typeMembers g) fun p r q =>
    ReadsAll p r q ∧ p.scanner.tokenStart < q.prevEnd := by
  intro p hp
  unfold typeMembers
  refine (expect_spec (by decide) p hp).bind fun _ q hq h₁ => ?_
  simp only [runs_budget]
  refine (typeMemberList_spec h p.scanner.tokenStart (q.scanner.size + 2) [] q hq).bind
    fun members r hr h₂ => ?_
  refine (expect_spec (by decide) r hr).bind fun _ s hs h₃ => ?_
  exact Runs.pure hs fun _ _ hms ⟨_, _, hadv⟩ =>
    ⟨((hms ((Built.begin p).skip h₁)).skip h₃).kids, hadv.trans_le (h₂.trans h₃).prevEnd_le⟩

end Members

/-! ### Types -/

section Types

variable (h : g.Sound)
include h

omit h in
theorem startsMappedType_spec : Spec startsMappedType fun _ _ _ => True := by
  refine lookAhead_moves ?_
  repeat' first
    | with_reducible exact Moves.pure _ | with_reducible exact nextToken_moves
    | with_reducible exact accept_moves _ | split | dsimp only | with_reducible apply Moves.bind
    | exact Moves.read fun _ => rfl | intro _

theorem tupleElement_spec : Spec (tupleElement g) Reads := by
  intro p hp
  unfold tupleElement
  simp -zeta only [runs_tokenPos]
  have hnamed : Moves (do
      let _ ← accept .dotDotDotToken
      if !(← isIdentifierOrKeyword) then return false
      nextToken
      let _ ← accept .questionToken
      isToken .colonToken : ParserM Bool) := by
    repeat' first
    | with_reducible exact Moves.pure _ | with_reducible exact nextToken_moves
    | with_reducible exact accept_moves _ | split | dsimp only | with_reducible apply Moves.bind
    | exact Moves.read fun _ => rfl | intro _
  refine (lookAhead_spec hnamed p hp).bind fun named q hq h₁ => ?_
  extract_lets jp
  have hjp : ∀ u r, Sane r → Follows p r → Runs r (jp u) fun n s => Reads p n s := by
    intro u r hr h₂
    simp -zeta only [jp]
    refine (accept_spec (by decide) r hr).bind fun b s hs h₃ => ?_
    split
    · next hb =>
      refine (h.type s hs).bind fun type t ht h₄ => ?_
      simp only [runs_lastEnd]
      exact Runs.pure ht fun _ hty hacc =>
        ((((Built.of_le h₂.tokenStart_le).skip h₃).read hs hty h₄).node rfl rfl rfl
          ((h₂.tokenStart_le.trans_lt (hacc hb).2.2).trans_le h₄.prevEnd_le) trivial trivial)
    · refine (h.type s hs).bind fun type t ht h₄ => ?_
      refine (accept_spec (by decide) t ht).bind fun c u hu h₅ => ?_
      split
      · simp only [runs_lastEnd]
        exact Runs.pure hu fun _ _ hty _ =>
          ((((Built.of_le h₂.tokenStart_le).skip h₃).read hs hty h₄).skip h₅).node rfl rfl rfl
            (((Built.of_le h₂.tokenStart_le).skip h₃).lt_of_read hty |>.trans_le h₅.prevEnd_le)
            trivial trivial
      · exact Runs.pure hu fun _ _ hty _ => hty.widen (h₂.trans h₃) h₅
  split
  · exact (reportUnsupported_spec _ q hq).bind fun _ r hr h₂ =>
      (hjp () r hr (h₁.trans h₂)).mono fun _ _ _ hF _ => hF.elim
  · exact (hjp () q hq h₁).mono fun _ _ hn _ => hn

theorem tupleType_spec : Spec (tupleType g) fun p n q => Reads p n q ∧ n.typeLevel = 4 := by
  intro p hp
  unfold tupleType
  simp only [runs_tokenPos]
  refine (expect_spec (by decide) p hp).bind fun _ q hq h₁ => ?_
  refine (delimited_spec (tupleElement_spec h) q hq).bind fun ⟨elements, _⟩ r hr h₂ => ?_
  refine (expect_spec (by decide) r hr).bind fun _ s hs h₃ => ?_
  simp only [runs_lastEnd]
  exact Runs.pure hs fun _ _ hel ⟨_, _, hadv⟩ =>
    ⟨((((Built.begin p).skip h₁).add hq hel h₂).skip h₃).node rfl rfl rfl
      (hadv.trans_le (h₂.trans h₃).prevEnd_le) trivial trivial, rfl⟩

theorem referenceOrMissing_spec :
    Spec (referenceOrMissing g) fun p n q => Reads p n q ∧ n.typeLevel = 4 := by
  intro p hp
  unfold referenceOrMissing
  simp only [runs_isIdentifier, runs_isToken]
  split
  · exact typeReference_spec h p hp
  · exact (errorAtToken_spec _ p hp).bind fun _ q hq _ =>
      (missingIdent_spec q hq).mono fun _ _ _ h => h.elim

theorem nonArrayType_spec :
    Spec (nonArrayType g) fun p n q => Reads p n q ∧ n.typeLevel = 4 := by
  intro p hp
  unfold nonArrayType
  simp only [runs_tokenPos, runs_token]
  have hdirty : ∀ {what : String} {R : Node → Parser → Prop}, Runs p (unsupportedType what) R :=
    fun {_ _} => (unsupportedType_spec _ p hp).mono fun _ _ h => h.elim
  have hlit : ∀ {lit : ParserM Node},
      Spec lit (fun p r q => p.scanner.token ≠ .endOfFileToken → Reads p r q) →
      p.scanner.token ≠ .endOfFileToken →
      Runs p (do
          let l ← lit
          let e ← lastEnd
          pure (Node.literalType ⟨p.scanner.tokenStart, e⟩ l))
        fun n q => Reads p n q ∧ n.typeLevel = 4 := fun hl hne =>
    (hl p hp).bind fun l q hq h₁ => by
      simp only [runs_lastEnd]
      exact Runs.pure hq fun _ hr => ⟨((Built.begin p).read hp (hr hne) h₁).node rfl rfl rfl
        ((Built.begin p).lt_of_read (hr hne)) trivial trivial, rfl⟩
  have hkw : Spec keywordNode fun p r q => p.scanner.token ≠ .endOfFileToken → Reads p r q :=
    fun p hp => (keywordNode_spec p hp).mono fun _ _ h => h.2
  split
  · next hk =>
    have hne : p.scanner.token ≠ .endOfFileToken := by
      intro he
      rw [he] at hk
      exact absurd hk (by decide)
    refine (peekIs_spec _ p hp).bind fun b q hq h₁ => ?_
    split
    · exact (keywordNode_spec q hq).mono fun _ _ ⟨hshape, hr⟩ hsc =>
        ⟨(hr (by rw [hsc]; exact hne)).since h₁, by rw [hshape]; rfl⟩
    · exact (referenceOrMissing_spec h q hq).mono fun _ _ ⟨hr, hl⟩ _ => ⟨hr.since h₁, hl⟩
  split
  next htok => exact hlit literal_spec (by rw [htok]; decide)
  next htok => exact hlit literal_spec (by rw [htok]; decide)
  next htok => exact hlit literal_spec (by rw [htok]; decide)
  next htok => exact hlit literal_spec (by rw [htok]; decide)
  next htok => exact hlit hkw (by rw [htok]; decide)
  next htok => exact hlit hkw (by rw [htok]; decide)
  · refine (lookAhead_spec (nextToken_moves.bind fun _ => .read fun _ => rfl) p hp).bind
      fun negative q hq h₁ => ?_
    split
    · next hneg =>
      refine ((nextToken_spec q hq).and (nextToken_advance q hq)).bind fun _ r hr h₂ => ?_
      refine (literal_spec r hr).bind fun operand s hs h₃ => ?_
      simp only [runs_lastEnd]
      refine Runs.pure hs fun _ hop ⟨⟨_, hadv⟩, hra⟩ ⟨hsc, hres⟩ => ?_
      have hnum : ((advance p).scanner.token == .numericLiteral ||
          (advance p).scanner.token == .bigIntLiteral) = true := hneg ▸ hres.symm
      have hne : r.scanner.token ≠ .endOfFileToken := by
        rw [hra, hsc]
        intro he
        rw [he] at hnum
        exact absurd hnum (by decide)
      have hb := ((Built.begin p).skip h₁).skip h₂
      have hlt := (hb.lt_of_read (hop hne))
      have hunary := (hb.read hr (hop hne) h₃).node
        (n := .prefixUnary ⟨p.scanner.tokenStart, s.prevEnd⟩ .minusToken operand) rfl rfl rfl hlt
        trivial trivial
      exact ⟨((Built.begin p).read hp hunary ((h₁.trans h₂).trans h₃)).node rfl rfl rfl hlt
        trivial trivial, rfl⟩
    · exact (referenceOrMissing_spec h q hq).mono fun _ _ ⟨hr, hl⟩ _ => ⟨hr.since h₁, hl⟩
  · exact hdirty
  · refine (nextToken_spec p hp).bind fun _ q hq h₁ => ?_
    simp only [runs_isToken]
    split
    · exact (unsupportedType_spec _ q hq).mono fun _ _ h => h.elim
    refine (entityName_spec true q hq).bind fun name r hr h₂ => ?_
    simp only [runs_lastEnd]
    exact Runs.pure hr fun _ hn _ =>
      ⟨(((Built.begin p).skip h₁).read hq hn h₂).node rfl rfl rfl
        (((Built.begin p).skip h₁).lt_of_read hn) trivial trivial, rfl⟩
  · refine (startsMappedType_spec p hp).bind fun b q hq h₁ => ?_
    split
    · exact (reportUnsupported_spec _ q hq).bind fun _ r hr _ =>
        (skipToStatementEnd_spec r hr).bind fun _ s hs _ =>
          (missingIdent_spec s hs).mono fun _ _ _ _ h _ => h.elim
    refine (typeMembers_spec h q hq).bind fun members r hr h₂ => ?_
    simp only [runs_lastEnd]
    exact Runs.pure hr fun _ ⟨hms, hlt⟩ _ =>
      ⟨(((Built.begin p).skip h₁).add hq hms h₂).node rfl rfl rfl
        (h₁.tokenStart_le.trans_lt hlt) trivial trivial, rfl⟩
  · exact tupleType_spec h p hp
  · refine (nextToken_spec p hp).bind fun _ q hq h₁ => ?_
    refine (h.type q hq).bind fun type r hr h₂ => ?_
    refine (expect_spec (by decide) r hr).bind fun _ s hs h₃ => ?_
    simp only [runs_lastEnd]
    exact Runs.pure hs fun _ _ hty _ =>
      ⟨((((Built.begin p).skip h₁).read hq hty h₂).skip h₃).node rfl rfl rfl
        (((Built.begin p).skip h₁).lt_of_read hty |>.trans_le h₃.prevEnd_le) trivial trivial,
        rfl⟩
  · exact hdirty
  · exact referenceOrMissing_spec h p hp

theorem postfixRest_spec (start : Nat) : ∀ (n : Nat) (type : Node) (p : Parser), Sane p →
    Runs p (postfixRest g start n type) fun r q =>
      Node.Read start type p.prevEnd → start ≤ p.scanner.tokenStart → type.typeLevel = 4 →
        Node.Read start r q.prevEnd ∧ r.typeLevel = 4
  | 0, type, p, hp => Runs.pure hp fun _ hty _ hlev => ⟨hty, hlev⟩
  | n + 1, type, p, hp => by
    unfold postfixRest
    simp only [runs_isToken, runs_lineBreakBefore]
    split
    · refine (nextToken_spec p hp).bind fun _ q hq h₁ => ?_
      refine (accept_spec (by decide) q hq).bind fun b r hr h₂ => ?_
      split
      · simp only [runs_lastEnd]
        refine (postfixRest_spec start n _ r hr).mono fun _ _ hl _ _ hty hs hlev => hl ?_ ?_ rfl
        · exact ((⟨hty.all, hs⟩ : Built start [type] p).skip (h₁.trans h₂)).node rfl rfl rfl
            (hty.lt.trans_le (h₁.trans h₂).prevEnd_le) trivial hlev
        · exact hs.trans (h₁.trans h₂).tokenStart_le
      · refine (h.type r hr).bind fun index s hs h₃ => ?_
        refine (expect_spec (by decide) s hs).bind fun _ t ht h₄ => ?_
        simp only [runs_lastEnd]
        refine (postfixRest_spec start n _ t ht).mono fun _ _ hl _ hi _ _ hty hst hlev =>
          hl ?_ ?_ rfl
        · exact ((((⟨hty.all, hst⟩ : Built start [type] p).skip (h₁.trans h₂)).read hr hi h₃).skip
            h₄).node rfl rfl rfl (hty.lt.trans_le ((h₁.trans h₂).trans (h₃.trans h₄)).prevEnd_le)
            trivial hlev
        · exact hst.trans ((h₁.trans h₂).trans (h₃.trans h₄)).tokenStart_le
    · exact Runs.pure hp fun _ hty _ hlev => ⟨hty, hlev⟩

theorem postfixType_spec : Spec (postfixType g) fun p n q => Reads p n q ∧ n.typeLevel = 4 := by
  intro p hp
  unfold postfixType
  simp only [runs_tokenPos]
  refine (nonArrayType_spec h p hp).bind fun type q hq h₁ => ?_
  simp only [runs_budget]
  exact (postfixRest_spec h p.scanner.tokenStart (q.scanner.size + 2) type q hq).mono
    fun _ _ hl ⟨hty, hlev⟩ => hl hty h₁.tokenStart_le hlev

theorem typeOperator_spec :
    Spec (typeOperator g) fun p n q => Reads p n q ∧ 3 ≤ n.typeLevel := by
  intro p hp
  unfold typeOperator
  simp only [runs_tokenPos, runs_token]
  split
  · refine (nextToken_spec p hp).bind fun _ q hq h₁ => ?_
    refine (h.typeOperator q hq).bind fun type r hr h₂ => ?_
    simp only [runs_lastEnd]
    exact Runs.pure hr fun _ ⟨hty, _⟩ _ =>
      ⟨(((Built.begin p).skip h₁).read hq hty h₂).node rfl rfl rfl
        (((Built.begin p).skip h₁).lt_of_read hty) trivial trivial, Nat.le_refl _⟩
  split
  · exact (unsupportedType_spec _ p hp).mono fun _ _ h => h.elim
  · exact (postfixType_spec h p hp).mono fun _ _ ⟨hr, hlev⟩ => ⟨hr, by rw [hlev]; decide⟩

omit h in
/-- Constituents joined by a separator: a single one stands for itself, several make one node
from the first to the last. -/
theorem compositeType_spec {sep : TokenKind} (hsep : sep ≠ .endOfFileToken)
    {build : Span → List Node → Node} {constituent : ParserM Node} {P P' : Node → Prop}
    (hc : Spec constituent fun p n q => Reads p n q ∧ P n) (hP : ∀ n, P n → P' n)
    (hbuild : ∀ sp ts, (∀ t ∈ ts, P t) → (build sp ts).pos = sp.pos ∧
      (build sp ts).stop = sp.stop ∧ (build sp ts).children = ts ∧ (build sp ts).OperandsOK ∧
      (build sp ts).NestingOK ∧ P' (build sp ts)) :
    Spec (compositeType sep build constituent) fun p n q => Reads p n q ∧ P' n := by
  intro p hp
  unfold compositeType
  simp only [runs_tokenPos]
  refine (accept_spec hsep p hp).bind fun leading q hq h₁ => ?_
  refine (hc q hq).bind fun first r hr h₂ => ?_
  simp only [runs_isToken]
  split
  · exact Runs.pure hr fun _ ⟨hf, hPf⟩ _ => ⟨hf.since h₁, hP _ hPf⟩
  refine (separated_spec hsep hc r hr).bind fun rest s hs h₃ => ?_
  simp only [runs_lastEnd]
  refine Runs.pure hs fun _ ⟨hrest, hPr⟩ ⟨hf, hPf⟩ _ => ?_
  have hst : p.scanner.tokenStart ≤ (if leading = true then first.pos else p.scanner.tokenStart) ∧
      (if leading = true then first.pos else p.scanner.tokenStart) ≤ first.pos := by
    have := (hf.since h₁).lo_le
    split
    · exact ⟨this, Nat.le_refl _⟩
    · exact ⟨Nat.le_refl _, this⟩
  obtain ⟨hpos, hstop, hkids, hop, hnest, hP'⟩ :=
    hbuild ⟨if leading = true then first.pos else p.scanner.tokenStart, s.prevEnd⟩ (first :: rest)
      (List.forall_mem_cons.2 ⟨hPf, hPr⟩)
  have hfirst := hf.of_pos hst.2
  have hb : Built _ [first] r := ⟨hfirst.all, hst.2.trans_lt hfirst.nonempty |>.le.trans
    (hfirst.stop_le.trans hr.prevEnd_le)⟩
  refine ⟨((hb.add hr hrest h₃).node hkids hpos hstop ?_ hop hnest).of_pos (hpos ▸ hst.1), hP'⟩
  exact hfirst.lt.trans_le h₃.prevEnd_le

theorem intersectionType_spec :
    Spec (intersectionType g) fun p n q => Reads p n q ∧ 2 ≤ n.typeLevel :=
  compositeType_spec (by decide) h.typeOperator (fun _ h => by omega)
    fun _ _ hts => ⟨rfl, rfl, rfl, trivial, hts, Nat.le_refl _⟩

/-- A union type: its constituents are intersections or tighter. -/
theorem unionType_spec : Spec (unionType g) fun p n q => Reads p n q ∧ 1 ≤ n.typeLevel :=
  compositeType_spec (by decide) (intersectionType_spec h) (fun _ h => by omega)
    fun _ _ hts => ⟨rfl, rfl, rfl, trivial, hts, Nat.le_refl _⟩

theorem skipParameterStart_moves : Moves (skipParameterStart g) := by
  unfold skipParameterStart
  repeat' first
    | with_reducible exact Moves.pure _ | with_reducible exact nextToken_moves
    | exact Moves.of_spec h.bindingName | split | dsimp only | with_reducible apply Moves.bind
    | exact Moves.read fun _ => rfl | intro _

theorem startsFunctionType_spec : Spec (startsFunctionType g) fun _ _ _ => True := by
  unfold startsFunctionType
  repeat' first
    | with_reducible exact Moves.pure _ | with_reducible exact nextToken_moves
    | with_reducible exact nextIs_moves _ | with_reducible refine lookAhead_moves ?_
    | with_reducible exact skipParameterStart_moves h | split | dsimp only
    | with_reducible apply Moves.bind | exact Moves.read fun _ => rfl | intro _

theorem functionType_spec : Spec (functionType g) Reads := by
  intro p hp
  unfold functionType
  simp only [runs_tokenPos]
  refine (typeParameters_spec h p hp).bind fun tps q hq h₁ => ?_
  refine (parameters_spec h q hq).bind fun ⟨params, _⟩ r hr h₂ => ?_
  refine (expect_spec (by decide) r hr).bind fun _ s hs h₃ => ?_
  refine (returnType_spec h s hs).bind fun result t ht h₄ => ?_
  simp only [runs_lastEnd]
  exact Runs.pure ht fun _ hres _ ⟨hps, hlt⟩ htps =>
    (((((Built.begin p).add hp (Node.ReadAll.optList htps) h₁).add hq hps h₂).skip h₃).read hs
      hres h₄).node rfl rfl rfl ((h₁.tokenStart_le.trans_lt hlt).trans_le
        (h₃.trans h₄).prevEnd_le) trivial trivial

theorem typeBody_spec : Spec (typeBody g) Reads := by
  intro p hp
  unfold typeBody
  refine (startsFunctionType_spec h p hp).bind fun b q hq h₁ => ?_
  split
  · exact (functionType_spec h q hq).mono fun _ _ hn _ => hn.since h₁
  simp only [runs_isToken]
  split
  · exact (unsupportedType_spec _ q hq).mono fun _ _ h => h.elim
  refine (unionType_spec h q hq).bind fun type r hr h₂ => ?_
  simp only [runs_isToken, runs_lineBreakBefore]
  split
  · refine (reportUnsupported_spec _ r hr).bind fun _ s hs _ => ?_
    refine (nextToken_spec s hs).bind fun _ t ht _ => ?_
    refine (unionType_spec h t ht).bind fun _ u hu _ => ?_
    refine (accept_spec (by decide) u hu).bind fun _ v hv _ => ?_
    refine Runs.mono (Q := fun _ _ => True) ?_ fun _ _ _ _ _ _ hF _ _ => hF.elim
    split
    · refine (h.type v hv).bind fun _ w hw _ => ?_
      refine (accept_spec (by decide) w hw).bind fun _ x hx _ => ?_
      split
      · exact (h.type x hx).bind fun _ y hy _ => Runs.pure hy fun _ _ _ _ => trivial
      · exact Runs.pure hx fun _ _ _ => trivial
    · exact Runs.pure hv fun _ => trivial
  · exact Runs.pure hr fun _ ⟨hty, _⟩ _ => hty.since h₁

theorem typeNode_spec : Spec (typeNode g) Reads :=
  guarded_spec (fun _ hp => (missingIdent_spec _ hp)) (typeBody_spec h)
    fun _ _ _ _ _ hr => hr

end Types

end Parser

end ParamNarrow
