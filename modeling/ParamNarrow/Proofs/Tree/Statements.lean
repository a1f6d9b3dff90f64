import ParamNarrow.Proofs.Tree.Declarations
/-!
# Statements read well formed

From a sound grammar (`Grammar.Sound`) every statement rule reads well-formed nodes, a list of
statements is read in order, and so is the list of clauses of a `switch`. The loops over lists
carry fuel; each is specified by induction on it, one round adding its node to the nodes read
from the loop's start (`ReadsAll.snoc`).

The last arm of `statementBody` falls through eight tests, each by a join point, down to an
expression statement. Each join point reads from the token the statement starts at
(`ReadsFrom`), which `ReadsFrom.test` carries back from the join point after it.
-/

namespace ParamNarrow

namespace Parser

variable {g : Grammar}

/-! ### Steps that read no statement -/

theorem accept_false {k : TokenKind} :
    Spec (accept k) fun p b q => b = false → p.scanner.token ≠ k ∧ q = p := by
  intro p hp
  unfold accept
  rw [runs_isToken]
  split
  · exact (nextToken_spec p hp).bind fun _ q hq _ => Runs.pure hq fun _ _ h => absurd h (by decide)
  · next hk => exact Runs.pure hp fun _ _ => ⟨fun heq => hk (by simp [heq]), rfl⟩

/-- A look-ahead test that either takes its branch or falls through to the join point. -/
theorem Runs.test {α : Type} {q : Parser} {c : Prop} [Decidable c] {look : ParserM Bool}
    {t : Bool → Bool} {m : ParserM α} {jp : Unit → ParserM α} {Q : Bool → Parser → Prop}
    {R : α → Parser → Prop} (hq : Sane q) (hlook : Runs q look Q)
    (hm : ∀ r, Sane r → Follows q r → Runs r m R)
    (hjp : ∀ r, Sane r → Follows q r → Runs r (jp ()) R) :
    Runs q (if c then look >>= (fun b => if t b = true then m else jp ()) else jp ()) R := by
  split
  · refine hlook.bind fun b r hr hf => ?_
    split
    · exact (hm r hr hf).mono fun _ _ hres _ => hres
    · exact (hjp r hr hf).mono fun _ _ hres _ => hres
  · exact hjp q hq (.refl hq)

/-- `m`, run from any sane state after `p`, reads statements that start at the token `p`
stands at: what each arm of a statement promises, whatever look-aheads ran before it. -/
def ReadsFrom (p : Parser) (m : ParserM (Option Node)) : Prop :=
  ∀ q, Sane q → Follows p q → Runs q m fun r t => ∀ n ∈ r, Reads p n t

/-- A look-ahead test on the token `p` stands at, as a statement arm: it reads from `p` when its
branch and its join point do. -/
theorem ReadsFrom.test {p : Parser} {c : Prop} [Decidable c] {look : ParserM Bool}
    {t : Bool → Bool} {m : ParserM (Option Node)} {jp : Unit → ParserM (Option Node)}
    {Q : Parser → Bool → Parser → Prop} (hlook : Spec look Q) (hm : ReadsFrom p m)
    (hjp : ReadsFrom p (jp ())) :
    ReadsFrom p (if c then look >>= (fun b => if t b = true then m else jp ()) else jp ()) :=
  fun q hq hf => Runs.test hq (hlook q hq) (fun r hr h₁ => hm r hr (hf.trans h₁))
    fun r hr h₁ => hjp r hr (hf.trans h₁)

theorem jumpStatement_spec : Spec jumpStatement fun p n q =>
    p.scanner.token ≠ .endOfFileToken → Reads p n q := by
  intro p hp
  unfold jumpStatement
  rw [runs_tokenPos, runs_isToken]
  refine (nextToken_spec p hp).bind fun _ q hq h₁ => ?_
  rw [runs_canEndStatement, runs_isIdentifier]
  refine Runs.ite_bind (Q := fun o r => ∀ x ∈ o, Reads q x r) (identifier_spec q hq).some_map
    (Runs.pure hq fun _ _ hx => nomatch hx) fun label r hr h₂ => ?_
  refine (semicolon_spec r hr).bind fun _ s hs h₃ => ?_
  rw [runs_lastEnd]
  refine Runs.pure hs fun _ _ hlabel ⟨_, hadv⟩ hne => ?_
  have hb := (((Built.begin p).skip h₁).opt hq hlabel h₂).skip h₃
  have hlt := (hadv hne).trans_le (h₂.trans h₃).prevEnd_le
  split
  · exact hb.node rfl rfl rfl hlt trivial trivial
  · exact hb.node rfl rfl rfl hlt trivial trivial

theorem skipAsEmpty_spec : Spec skipAsEmpty fun _ _ _ => True := by
  intro p hp
  unfold skipAsEmpty
  rw [runs_tokenPos]
  refine (nextToken_spec p hp).bind fun _ q hq _ => ?_
  rw [runs_lastEnd]
  exact Runs.pure hq fun _ _ => trivial

section Statements

variable (h : g.Sound)
include h

/-! ### Statement lists and blocks -/

theorem statementItems_spec (topLevel : Bool) (p₀ : Parser) :
    ∀ (n : Nat) (acc : List Node) (p : Parser), Sane p → Follows p₀ p →
      Runs p (statementItems g topLevel n acc) fun r q =>
        ReadsAll p₀ acc.reverse p → ReadsAll p₀ r q
  | 0, acc, p, hp, _ => Runs.pure hp fun _ h => h
  | n + 1, acc, p, hp, h₀ => by
    unfold statementItems
    rw [runs_isToken]
    split
    · exact Runs.pure hp fun _ h => h
    rw [runs_isToken]
    split
    · split
      · exact Runs.pure hp fun _ h => h
      · exact (errorAtToken_spec _ p hp).bind fun _ q hq h₁ => (nextToken_spec q hq).bind
          fun _ r hr h₂ => (statementItems_spec topLevel p₀ n acc r hr
            (h₀.trans (h₁.trans h₂))).mono fun _ _ _ _ hF => hF.elim
    rw [runs_tokenPos]
    refine (h.statement p hp).bind fun s q hq h₁ => ?_
    extract_lets acc' jpRest
    have hacc : ReadsAll p₀ acc.reverse p → (∀ x ∈ s, Reads p x q) →
        ReadsAll p₀ acc'.reverse q := by
      intro hprev hs
      simp only [acc']
      cases s with
      | none => exact hprev.later h₁
      | some x =>
        rw [List.reverse_cons]
        exact hprev.snoc (hs x rfl) h₀ (.refl hp)
    rw [runs_tokenPos, runs_isToken, runs_isToken]
    split
    · refine (nextToken_spec q hq).bind fun _ r hr h₂ => ?_
      exact (statementItems_spec topLevel p₀ n acc' r hr ((h₀.trans h₁).trans h₂)).mono
        fun _ _ hres _ hs hprev => hres ((hacc hprev hs).later h₂)
    · exact (statementItems_spec topLevel p₀ n acc' q hq (h₀.trans h₁)).mono
        fun _ _ hres hs hprev => hres (hacc hprev hs)

theorem statementList_spec (topLevel : Bool) :
    Spec (statementList g topLevel) ReadsAll := by
  intro p hp
  unfold statementList
  rw [runs_budget]
  exact (statementItems_spec h topLevel p _ [] p hp (.refl hp)).mono fun _ _ hl =>
    hl Node.readAll_nil

theorem block_spec : Spec (block g) Reads := by
  intro p hp
  unfold block
  rw [runs_tokenPos]
  refine (expect_spec (by decide) p hp).bind fun _ q hq h₁ => ?_
  refine (allowIn_spec (statementList_spec h false) (fun _ _ _ _ _ hx => hx) q hq).bind
    fun statements r hr h₂ => ?_
  refine (expect_spec (by decide) r hr).bind fun _ s hs h₃ => ?_
  rw [runs_lastEnd]
  refine (spansLines_spec _ _ s hs).bind fun _ t ht h₄ => ?_
  refine Runs.pure ht fun _ heq _ hstmts ⟨_, _, hlt⟩ => ?_
  subst heq
  exact ((((Built.begin p).skip h₁).add hq hstmts h₂).skip h₃).node rfl rfl rfl
    (hlt.trans_le (h₂.trans h₃).prevEnd_le) trivial trivial

/-! ### Control flow -/

theorem expressionStatement_spec : Spec (expressionStatement g) Reads := by
  intro p hp
  unfold expressionStatement
  rw [runs_tokenPos]
  refine (h.expression p hp).bind fun e q hq h₁ => ?_
  refine (semicolon_spec q hq).bind fun _ r hr h₂ => ?_
  rw [runs_lastEnd]
  exact Runs.pure hr fun _ _ he => (((Built.begin p).read hp he h₁).skip h₂).node rfl rfl rfl
    ((Built.begin p).lt_of_read he |>.trans_le h₂.prevEnd_le) trivial trivial

theorem ifStatement_spec : Spec (ifStatement g) Reads := by
  intro p hp
  unfold ifStatement
  rw [runs_tokenPos]
  refine (expect_spec (by decide) p hp).bind fun _ q hq h₁ => ?_
  refine (expect_spec (by decide) q hq).bind fun _ r hr h₂ => ?_
  refine (h.expression r hr).bind fun condition s hs h₃ => ?_
  refine (expect_spec (by decide) s hs).bind fun _ t ht h₄ => ?_
  refine (h.statement t ht).bind fun thenBranch u hu h₅ => ?_
  refine (accept_spec (by decide) u hu).bind fun _ v hv h₆ => ?_
  refine Runs.ite_bind (Q := fun o w => ∀ x ∈ o, Reads v x w) (h.statement v hv)
    (Runs.pure hv fun _ _ hx => nomatch hx) fun elseBranch w hw h₇ => ?_
  rw [runs_lastEnd]
  refine Runs.pure hw fun _ helse _ hthen _ hcond _ ⟨_, _, hlt⟩ => ?_
  have hb := (((Built.begin p).skip (h₁.trans h₂)).read hr hcond h₃).skip h₄
  exact ((hb.opt ht hthen h₅).skip h₆ |>.opt hv helse h₇).node rfl rfl rfl
    (hlt.trans_le (((h₂.trans h₃).trans (h₄.trans h₅)).trans (h₆.trans h₇)).prevEnd_le)
    trivial trivial

theorem doStatement_spec : Spec (doStatement g) Reads := by
  intro p hp
  unfold doStatement
  rw [runs_tokenPos]
  refine (expect_spec (by decide) p hp).bind fun _ q hq h₁ => ?_
  refine (h.statement q hq).bind fun body r hr h₂ => ?_
  refine (expect_spec (by decide) r hr).bind fun _ s hs h₃ => ?_
  refine (expect_spec (by decide) s hs).bind fun _ t ht h₄ => ?_
  refine (h.expression t ht).bind fun condition u hu h₅ => ?_
  refine (expect_spec (by decide) u hu).bind fun _ v hv h₆ => ?_
  refine (accept_spec (by decide) v hv).bind fun _ w hw h₇ => ?_
  rw [runs_lastEnd]
  refine Runs.pure hw fun _ _ _ hcond _ _ hbody ⟨_, _, hlt⟩ => ?_
  have hb := (((Built.begin p).skip h₁).opt hq hbody h₂).skip (h₃.trans h₄)
  exact ((hb.read ht hcond h₅).skip (h₆.trans h₇)).node rfl rfl rfl
    (hlt.trans_le (((h₂.trans h₃).trans (h₄.trans h₅)).trans (h₆.trans h₇)).prevEnd_le)
    trivial trivial

theorem whileStatement_spec : Spec (whileStatement g) Reads := by
  intro p hp
  unfold whileStatement
  rw [runs_tokenPos]
  refine (expect_spec (by decide) p hp).bind fun _ q hq h₁ => ?_
  refine (expect_spec (by decide) q hq).bind fun _ r hr h₂ => ?_
  refine (h.expression r hr).bind fun condition s hs h₃ => ?_
  refine (expect_spec (by decide) s hs).bind fun _ t ht h₄ => ?_
  refine (h.statement t ht).bind fun body u hu h₅ => ?_
  rw [runs_lastEnd]
  refine Runs.pure hu fun _ hbody _ hcond _ ⟨_, _, hlt⟩ => ?_
  have hb := (((Built.begin p).skip (h₁.trans h₂)).read hr hcond h₃).skip h₄
  exact (hb.opt ht hbody h₅).node rfl rfl rfl
    (hlt.trans_le ((((h₂.trans h₃).trans h₄).trans h₅)).prevEnd_le) trivial trivial

theorem returnStatement_spec : Spec (returnStatement g) Reads := by
  intro p hp
  unfold returnStatement
  rw [runs_tokenPos]
  refine (expect_spec (by decide) p hp).bind fun _ q hq h₁ => ?_
  rw [runs_canEndStatement]
  refine Runs.ite_bind (Q := fun o r => ∀ x ∈ o, Reads q x r)
    (Runs.pure hq fun _ _ hx => nomatch hx) (h.expression q hq).some_map fun e r hr h₂ => ?_
  refine (semicolon_spec r hr).bind fun _ s hs h₃ => ?_
  rw [runs_lastEnd]
  exact Runs.pure hs fun _ _ he ⟨_, _, hlt⟩ =>
    ((((Built.begin p).skip h₁).opt hq he h₂).skip h₃).node rfl rfl rfl
      (hlt.trans_le (h₂.trans h₃).prevEnd_le) trivial trivial

theorem throwStatement_spec : Spec (throwStatement g) Reads := by
  intro p hp
  unfold throwStatement
  rw [runs_tokenPos]
  refine (expect_spec (by decide) p hp).bind fun _ q hq h₁ => ?_
  rw [runs_lineBreakBefore]
  refine Runs.ite_bind (Q := fun o r => ∀ x ∈ o, Reads q x r)
    ((errorAtToken_spec _ q hq).bind fun _ r hr _ => Runs.pure hr fun _ hF => hF.elim)
    (h.expression q hq).some_map fun e r hr h₂ => ?_
  refine (semicolon_spec r hr).bind fun _ s hs h₃ => ?_
  rw [runs_lastEnd]
  exact Runs.pure hs fun _ _ he ⟨_, _, hlt⟩ =>
    ((((Built.begin p).skip h₁).opt hq he h₂).skip h₃).node rfl rfl rfl
      (hlt.trans_le (h₂.trans h₃).prevEnd_le) trivial trivial

theorem forEachEnd_spec (start : Nat) (forOf await : Bool) (init : Option Node) (e : Node)
    {w : Parser} (hw : Sane w) :
    Runs w (do
      let _ ← expect .closeParenToken
      let body ← g.statement
      let stop ← lastEnd
      let span : Span := ⟨start, stop⟩
      pure (if forOf then Node.forOfStatement span await init e body
        else Node.forInStatement span await init e body)) fun n x =>
      Built start (init.toList ++ [e]) w → start < w.prevEnd → Node.Read start n x.prevEnd := by
  refine (expect_spec (by decide) w hw).bind fun _ x hx h₁ => ?_
  refine (h.statement x hx).bind fun body y hy h₂ => ?_
  rw [runs_lastEnd]
  refine Runs.pure hy fun _ hbody _ hb hlt => ?_
  have hb' := (hb.skip h₁).opt hx hbody h₂
  have hlt' := hlt.trans_le (h₁.trans h₂).prevEnd_le
  split
  · exact hb'.node rfl rfl rfl hlt' trivial trivial
  · exact hb'.node rfl rfl rfl hlt' trivial trivial

theorem forEnd_spec (start : Nat) (init condition update : Option Node) {y : Parser}
    (hy : Sane y) :
    Runs y (do
      let _ ← expect .closeParenToken
      let body ← g.statement
      let stop ← lastEnd
      pure (Node.forStatement ⟨start, stop⟩ init condition update body)) fun n z =>
      Built start (init.toList ++ condition.toList ++ update.toList) y → start < y.prevEnd →
        Node.Read start n z.prevEnd := by
  refine (expect_spec (by decide) y hy).bind fun _ z hz h₁ => ?_
  refine (h.statement z hz).bind fun body a ha h₂ => ?_
  rw [runs_lastEnd]
  exact Runs.pure ha fun _ hbody _ hb hlt =>
    ((hb.skip h₁).opt hz hbody h₂).node rfl rfl rfl (hlt.trans_le (h₁.trans h₂).prevEnd_le)
      trivial trivial

theorem optExpression_spec {start : Nat} {kids : List Node} {k : TokenKind}
    {jp : Option Node → ParserM Node} {v : Parser} (hv : Sane v)
    (hjp : ∀ o w, Sane w → Follows v w → Runs w (jp o) fun n x =>
      Built start (kids ++ o.toList) w → start < w.prevEnd → Node.Read start n x.prevEnd) :
    Runs v (do
      let skip ← isToken k
      if skip then do
        let o ← pure none
        jp o
      else do
        let o ← some <$> g.expression
        jp o) fun n x =>
      Built start kids v → start < v.prevEnd → Node.Read start n x.prevEnd := by
  rw [runs_isToken]
  split
  · rw [runs_pure_bind]
    exact (hjp none v hv (.refl hv)).mono fun _ _ hn hb hlt =>
      hn hb.none hlt
  · refine (h.expression v hv).some_map.bind fun o w hw h₁ => ?_
    exact (hjp o w hw h₁).mono fun _ _ hn ho hb hlt =>
      hn (hb.opt hv ho h₁) (hlt.trans_le h₁.prevEnd_le)

theorem forStatement_spec : Spec (forStatement g) Reads := by
  intro p hp
  unfold forStatement
  rw [runs_tokenPos]
  refine (expect_spec (by decide) p hp).bind fun _ q hq h₁ => ?_
  refine (accept_spec (by decide) q hq).bind fun await r hr h₂ => ?_
  refine (expect_spec (by decide) r hr).bind fun _ s hs h₃ => ?_
  rw [runs_isToken, runs_isToken, runs_isToken]
  refine (isLetDeclaration_spec s hs).bind fun _ t ht h₄ => ?_
  extract_lets declares jpInit
  rw [runs_isToken]
  have hinit : ∀ init u, Sane u → Follows t u → Runs u (jpInit init) fun n v =>
      Built p.scanner.tokenStart init.toList u → p.scanner.tokenStart < u.prevEnd →
        Reads p n v := by
    intro init u hu h₅
    simp -zeta only [jpInit]
    rw [runs_isToken]
    extract_lets forOf jpExpr jpCondition
    rw [runs_isToken]
    extract_lets forIn
    split
    · refine (expect_spec (by split <;> decide) u hu).bind fun _ v hv h₆ => ?_
      have hexpr : ∀ e w, Sane w → Follows v w → Runs w (jpExpr e) fun n x =>
          Reads v e w → Built p.scanner.tokenStart init.toList u →
            p.scanner.tokenStart < u.prevEnd → Reads p n x := fun e w hw h₇ =>
        (forEachEnd_spec h _ forOf await init e hw).mono fun _ _ hn he hb hlt =>
          hn ((hb.skip h₆).read hv he h₇) (hlt.trans_le (h₆.trans h₇).prevEnd_le)
      split
      · exact (allowIn_spec h.assignment (fun _ _ _ _ _ hx => hx) v hv).bind fun e w hw h₇ =>
          (hexpr e w hw h₇).mono fun _ _ hn he _ => hn he
      · exact (allowIn_spec h.expression (fun _ _ _ _ _ hx => hx) v hv).bind fun e w hw h₇ =>
          (hexpr e w hw h₇).mono fun _ _ hn he _ => hn he
    · refine (expect_spec (by decide) u hu).bind fun _ v hv h₆ => ?_
      refine (optExpression_spec h hv fun condition w hw _ => ?_).mono
        fun _ _ hn _ hb hlt => hn (hb.skip h₆) (hlt.trans_le h₆.prevEnd_le)
      simp -zeta only [jpCondition]
      extract_lets jpUpdate
      refine (expect_spec (by decide) w hw).bind fun _ x hx h₇ => ?_
      exact (optExpression_spec h hx fun update y hy _ =>
        forEnd_spec h _ init condition update hy).mono
        fun _ _ hn _ hb hlt => hn (hb.skip h₇) (hlt.trans_le h₇.prevEnd_le)
  have hbegin : ∀ u, Follows t u → p.scanner.tokenStart < q.prevEnd →
      Built p.scanner.tokenStart [] u ∧ p.scanner.tokenStart < u.prevEnd := fun u h₅ hlt =>
    ⟨(Built.begin p).skip ((((h₁.trans h₂).trans h₃).trans h₄).trans h₅),
      hlt.trans_le ((((h₂.trans h₃).trans h₄).trans h₅)).prevEnd_le⟩
  split
  · rw [runs_pure_bind]
    exact (hinit none t ht (.refl ht)).mono fun _ _ hn _ _ _ ⟨_, _, hlt⟩ =>
      hn (hbegin t (.refl ht) hlt).1 (hbegin t (.refl ht) hlt).2
  split
  · refine (disallowIn_spec (variableList_spec h) (fun _ _ _ _ _ hx => hx) t ht).some_map.bind
      fun init u hu h₅ => ?_
    exact (hinit init u hu h₅).mono fun _ _ hn hi _ _ _ ⟨_, _, hlt⟩ =>
      hn ((hbegin t (.refl ht) hlt).1.opt ht hi h₅) ((hbegin u h₅ hlt).2)
  · refine (disallowIn_spec h.expression (fun _ _ _ _ _ hx => hx) t ht).some_map.bind
      fun init u hu h₅ => ?_
    exact (hinit init u hu h₅).mono fun _ _ hn hi _ _ _ ⟨_, _, hlt⟩ =>
      hn ((hbegin t (.refl ht) hlt).1.opt ht hi h₅) ((hbegin u h₅ hlt).2)

theorem clauseStatements_spec (p₀ : Parser) :
    ∀ (n : Nat) (acc : List Node) (p : Parser), Sane p → Follows p₀ p →
      Runs p (clauseStatements g n acc) fun r q =>
        ReadsAll p₀ acc.reverse p → ReadsAll p₀ r q
  | 0, acc, p, hp, _ => Runs.pure hp fun _ h => h
  | n + 1, acc, p, hp, h₀ => by
    unfold clauseStatements
    rw [runs_token]
    split
    · exact Runs.pure hp fun _ h => h
    rw [runs_tokenPos]
    refine (h.statement p hp).bind fun s q hq h₁ => ?_
    extract_lets acc' jpRest
    have hacc : ReadsAll p₀ acc.reverse p → (∀ x ∈ s, Reads p x q) →
        ReadsAll p₀ acc'.reverse q := by
      intro hprev hs
      simp only [acc']
      cases s with
      | none => exact hprev.later h₁
      | some x =>
        rw [List.reverse_cons]
        exact hprev.snoc (hs x rfl) h₀ (.refl hp)
    rw [runs_tokenPos]
    split
    · refine (nextToken_spec q hq).bind fun _ r hr h₂ => ?_
      exact (clauseStatements_spec p₀ n acc' r hr ((h₀.trans h₁).trans h₂)).mono
        fun _ _ hres _ hs hprev => hres ((hacc hprev hs).later h₂)
    · exact (clauseStatements_spec p₀ n acc' q hq (h₀.trans h₁)).mono
        fun _ _ hres hs hprev => hres (hacc hprev hs)

theorem switchClauses_spec (p₀ : Parser) :
    ∀ (n : Nat) (acc : List Node) (p : Parser), Sane p → Follows p₀ p →
      Runs p (switchClauses g n acc) fun r q =>
        ReadsAll p₀ acc.reverse p → ReadsAll p₀ r q
  | 0, acc, p, hp, _ => Runs.pure hp fun _ h => h
  | n + 1, acc, p, hp, h₀ => by
    unfold switchClauses
    rw [runs_isToken, runs_isToken]
    split
    · exact Runs.pure hp fun _ h => h
    rw [runs_tokenPos]
    have hnext : ∀ c t, Sane t → Follows p t →
        Runs t (switchClauses g n (c :: acc)) fun r q =>
          Reads p c t → ReadsAll p₀ acc.reverse p → ReadsAll p₀ r q := fun c t ht h =>
      (switchClauses_spec p₀ n _ t ht (h₀.trans h)).mono fun _ _ hres hc hprev => by
        rw [List.reverse_cons] at hres
        exact hres (hprev.snoc hc h₀ (.refl hp))
    refine ((accept_spec (by decide) p hp).and (accept_false p hp)).bind fun b q hq h₁ => ?_
    split
    · refine (h.expression q hq).bind fun e r hr h₂ => ?_
      refine (expect_spec (by decide) r hr).bind fun _ s hs h₃ => ?_
      rw [runs_budget]
      refine (clauseStatements_spec h s _ [] s hs (.refl hs)).bind fun statements t ht h₄ => ?_
      rw [runs_lastEnd]
      refine (hnext _ t ht ((h₁.trans (h₂.trans h₃)).trans h₄)).mono
        fun _ _ hres hstmts _ he ⟨hcase, _⟩ => hres ?_
      obtain ⟨_, _, hlt⟩ := hcase ‹b = true›
      have hb := (((Built.begin p).skip h₁).read hq he h₂).skip h₃
      exact (hb.add hs (hstmts Node.readAll_nil) h₄).node rfl rfl rfl
        (hlt.trans_le ((h₂.trans h₃).trans h₄).prevEnd_le) trivial trivial
    refine ((accept_spec (by decide) q hq).and (accept_false q hq)).bind fun b' r hr h₂ => ?_
    split
    · refine (expect_spec (by decide) r hr).bind fun _ s hs h₃ => ?_
      rw [runs_budget]
      refine (clauseStatements_spec h s _ [] s hs (.refl hs)).bind fun statements t ht h₄ => ?_
      rw [runs_lastEnd]
      refine (hnext _ t ht ((h₁.trans (h₂.trans h₃)).trans h₄)).mono
        fun _ _ hres hstmts _ ⟨hdefault, _⟩ ⟨_, hfirst⟩ => hres ?_
      obtain ⟨_, hq⟩ := hfirst (by simpa using ‹¬b = true›)
      subst q
      obtain ⟨_, _, hlt⟩ := hdefault ‹b' = true›
      have hb := ((Built.begin p).skip (h₁.trans h₂)).skip h₃
      exact (hb.add hs (hstmts Node.readAll_nil) h₄).node rfl rfl rfl
        (hlt.trans_le (h₃.trans h₄).prevEnd_le) trivial trivial
    · refine (expect_spec (by decide) r hr).bind fun _ s hs h₃ => ?_
      refine (nextToken_spec s hs).bind fun _ t ht h₄ => ?_
      refine (switchClauses_spec p₀ n acc t ht
        ((h₀.trans ((h₁.trans h₂).trans h₃)).trans h₄)).mono
        fun _ _ _ _ ⟨hcase, _⟩ ⟨_, hnot'⟩ ⟨_, hnot⟩ _ => ?_
      obtain ⟨hne, rfl⟩ := hnot (by simpa using ‹¬b = true›)
      obtain ⟨_, rfl⟩ := hnot' (by simpa using ‹¬b' = true›)
      exact absurd hcase hne

theorem switchStatement_spec : Spec (switchStatement g) Reads := by
  intro p hp
  unfold switchStatement
  rw [runs_tokenPos]
  refine (expect_spec (by decide) p hp).bind fun _ q hq h₁ => ?_
  refine (expect_spec (by decide) q hq).bind fun _ r hr h₂ => ?_
  refine (h.expression r hr).bind fun e s hs h₃ => ?_
  refine (expect_spec (by decide) s hs).bind fun _ t ht h₄ => ?_
  refine (expect_spec (by decide) t ht).bind fun _ u hu h₅ => ?_
  rw [runs_budget]
  refine (switchClauses_spec h u _ [] u hu (.refl hu)).bind fun clauses v hv h₆ => ?_
  refine (expect_spec (by decide) v hv).bind fun _ w hw h₇ => ?_
  rw [runs_lastEnd]
  refine Runs.pure hw fun _ _ hcl _ _ he _ ⟨_, _, hlt⟩ => ?_
  have hb := (((Built.begin p).skip (h₁.trans h₂)).read hr he h₃).skip (h₄.trans h₅)
  exact ((hb.add hu (hcl Node.readAll_nil) h₆).skip h₇).node rfl rfl rfl
    (hlt.trans_le (((h₂.trans h₃).trans (h₄.trans h₅)).trans (h₆.trans h₇)).prevEnd_le)
    trivial trivial

theorem tryStatement_spec : Spec (tryStatement g) Reads := by
  intro p hp
  unfold tryStatement
  rw [runs_tokenPos]
  refine (expect_spec (by decide) p hp).bind fun _ q hq h₁ => ?_
  refine (h.block q hq).bind fun tryBlock r hr h₂ => ?_
  rw [runs_isToken]
  extract_lets jpCatch
  have hcatch : ∀ c s, Sane s → Follows r s → Runs s (jpCatch c) fun b t =>
      (∀ x ∈ c, Reads r x s) → Built p.scanner.tokenStart [tryBlock] r →
        p.scanner.tokenStart < r.prevEnd → Reads p b t := by
    intro c s hs h₃
    simp -zeta only [jpCatch]
    refine (accept_spec (by decide) s hs).bind fun _ t ht h₄ => ?_
    extract_lets jpFinally
    refine Runs.optional (m := g.block) ht h.block fun f u hu h₅ => ?_
    simp -zeta only [jpFinally]
    extract_lets jpEnd
    have hend : ∀ v, Sane v → Follows u v → Runs v (jpEnd ()) fun b w =>
        Built p.scanner.tokenStart ([tryBlock] ++ c.toList ++ f.toList) u →
          p.scanner.tokenStart < u.prevEnd → Reads p b w := by
      intro v hv h₆
      simp -zeta only [jpEnd]
      rw [runs_lastEnd]
      exact Runs.pure hv fun _ hb hlt =>
        (hb.skip h₆).node rfl rfl rfl (hlt.trans_le h₆.prevEnd_le) trivial trivial
    have hdone : ∀ b w, (Built p.scanner.tokenStart ([tryBlock] ++ c.toList ++ f.toList) u →
        p.scanner.tokenStart < u.prevEnd → Reads p b w) → (∀ x ∈ f, Reads t x u) →
        (∀ x ∈ c, Reads r x s) → Built p.scanner.tokenStart [tryBlock] r →
        p.scanner.tokenStart < r.prevEnd → Reads p b w := fun _ _ hres hf hc hb hlt =>
      hres ((((hb.opt hr hc h₃).skip h₄).opt ht hf h₅))
        (hlt.trans_le ((h₃.trans h₄).trans h₅).prevEnd_le)
    split
    · refine (expect_spec (by decide) u hu).bind fun _ v hv h₆ => ?_
      exact (hend v hv h₆).mono fun _ _ hres _ hf _ => hdone _ _ hres hf
    · exact (hend u hu (.refl hu)).mono fun _ _ hres hf _ => hdone _ _ hres hf
  split
  · rw [runs_tokenPos]
    refine (nextToken_spec r hr).bind fun _ s₁ hs₁ h₃ => ?_
    refine (accept_spec (by decide) s₁ hs₁).bind fun _ s₂ hs₂ h₄ => ?_
    extract_lets jpDecl
    have hdecl : ∀ d s₃, Sane s₃ → Follows s₂ s₃ → Runs s₃ (jpDecl d) fun b t =>
        (∀ x ∈ d, Reads s₂ x s₃) → Built p.scanner.tokenStart [tryBlock] r →
          p.scanner.tokenStart < r.prevEnd → Reads p b t := by
      intro d s₃ hs₃ h₅
      simp -zeta only [jpDecl]
      refine (h.block s₃ hs₃).bind fun body s₄ hs₄ h₆ => ?_
      rw [runs_lastEnd, runs_pure_bind]
      refine (hcatch _ s₄ hs₄ (((h₃.trans h₄).trans h₅).trans h₆)).mono
        fun _ _ hres hbody hd => hres fun x hx => ?_
      cases hx
      have hb := (((Built.begin r).skip (h₃.trans h₄)).opt hs₂ hd h₅)
      exact (hb.read hs₃ hbody h₆).node rfl rfl rfl (hb.lt_of_read hbody) trivial trivial
    split
    · refine (variableDeclaration_spec h s₂ hs₂).bind fun d s₃ hs₃ h₅ => ?_
      refine (expect_spec (by decide) s₃ hs₃).bind fun _ s₄ hs₄ h₆ => ?_
      rw [runs_pure_bind]
      exact (hdecl _ s₄ hs₄ (h₅.trans h₆)).mono
        fun _ _ hres _ hd _ _ htry ⟨_, _, hlt⟩ =>
          hres (fun x hx => by cases hx; exact hd.widen (.refl hs₂) h₆)
            (((Built.begin p).skip h₁).read hq htry h₂) (hlt.trans_le h₂.prevEnd_le)
    · rw [runs_pure_bind]
      exact (hdecl none s₂ hs₂ (.refl hs₂)).mono fun _ _ hres _ _ htry ⟨_, _, hlt⟩ =>
        hres (fun _ hx => nomatch hx) (((Built.begin p).skip h₁).read hq htry h₂)
          (hlt.trans_le h₂.prevEnd_le)
  · rw [runs_pure_bind]
    exact (hcatch none r hr (.refl hr)).mono fun _ _ hres htry ⟨_, _, hlt⟩ =>
      hres (fun _ hx => nomatch hx) (((Built.begin p).skip h₁).read hq htry h₂)
        (hlt.trans_le h₂.prevEnd_le)

/-! ### A statement from its first token -/

theorem statementBody_spec :
    Spec (statementBody g) fun p r q => ∀ n ∈ r, Reads p n q := by
  intro p hp
  unfold statementBody
  rw [runs_tokenPos, runs_token]
  have hdecl : ReadsFrom p (declarationAfterModifiers g p.scanner.tokenStart {}) :=
    fun q hq hf => (declarationAfterModifiers_spec h _ {} q hq).mono fun _ _ hr =>
      hr hf.tokenStart_le
  have hunsupported : ∀ what : String,
      ReadsFrom p (do let n ← unsupportedDeclaration what; pure (some n)) :=
    fun what q hq _ => Runs.dirty_bind (unsupportedDeclaration_spec what q hq) fun _ s hs =>
      Runs.pure hs fun _ => trivial
  split
  rotate_right
  · -- eight tests fall through, each to the next by a join point, down to an expression
    -- statement; each join point is specified from the one after it
    extract_lets jp₈ jp₇ jp₆ jp₅ jp₄ jp₃ jp₂ jp₁
    have h₈ : ReadsFrom p (jp₈ ()) := fun q hq hf =>
      ((expressionStatement_spec h q hq).some_map).mono fun _ _ hr n hn => (hr n hn).since hf
    have h₇ : ReadsFrom p (jp₇ ()) := by
      intro q hq hf
      simp -zeta only [jp₇]
      -- the test reads the current token, not the one `p` stands at
      rw [runs_isIdentifier]
      exact Runs.test hq (peekIs_spec _ q hq) (fun r hr h₁ => hunsupported _ r hr (hf.trans h₁))
        fun r hr h₁ => h₈ r hr (hf.trans h₁)
    have h₆ : ReadsFrom p (jp₆ ()) := by
      simp -zeta only [jp₆]
      exact .test isNamespaceDeclaration_spec (hunsupported _) h₇
    have h₅ : ReadsFrom p (jp₅ ()) := by
      simp -zeta only [jp₅]
      exact .test (peekIs_spec _) (hunsupported _) h₆
    have h₄ : ReadsFrom p (jp₄ ()) := by
      simp -zeta only [jp₄]
      exact .test nextIsIdentifierOnSameLine_spec hdecl h₅
    have h₃ : ReadsFrom p (jp₃ ()) := by
      simp -zeta only [jp₃]
      exact .test startsDeclarationAfterModifier_spec hdecl h₄
    have h₂ : ReadsFrom p (jp₂ ()) := by
      simp -zeta only [jp₂]
      refine .test isImportCall_spec (fun r hr hf => ?_) h₃
      exact (importDeclaration_spec r hr).bind fun n s hs _ =>
        Runs.pure hs fun _ hn x hx => by
          cases hx
          exact hn.since hf
    have h₁ : ReadsFrom p (jp₁ ()) := by
      simp -zeta only [jp₁]
      exact .test startsAsyncFunction_spec hdecl h₂
    refine ReadsFrom.test isLetDeclaration_spec (fun q hq hf => ?_) h₁ p hp (.refl hp)
    exact (variableStatement_spec h _ {} q hq).bind fun n s hs _ =>
      Runs.pure hs fun _ hn x hx => by
        cases hx
        exact hn hf.tokenStart_le
  · exact (h.block p hp).some_map
  · next heq =>
    refine (nextToken_spec p hp).bind fun _ q hq h₁ => ?_
    rw [runs_lastEnd]
    refine Runs.pure hq fun _ ⟨_, hlt⟩ n hn => ?_
    cases hn
    exact ((Built.begin p).skip h₁).node rfl rfl rfl (hlt (by rw [heq]; decide)) trivial trivial
  · exact (declarationAfterModifiers_spec h _ {} p hp).mono fun _ _ hr => hr (Nat.le_refl _)
  · exact (declarationAfterModifiers_spec h _ {} p hp).mono fun _ _ hr => hr (Nat.le_refl _)
  · exact (functionDeclaration_spec h _ {} p hp).some_read.mono fun _ _ hr => hr (Nat.le_refl _)
  · exact (ifStatement_spec h p hp).some_map
  · exact (doStatement_spec h p hp).some_map
  · exact (whileStatement_spec h p hp).some_map
  · exact (forStatement_spec h p hp).some_map
  · next heq =>
    exact (jumpStatement_spec p hp).some_map.mono fun _ _ hr n hn =>
      hr n hn (by rw [heq]; decide)
  · next heq =>
    exact (jumpStatement_spec p hp).some_map.mono fun _ _ hr n hn =>
      hr n hn (by rw [heq]; decide)
  · exact (returnStatement_spec h p hp).some_map
  · exact (throwStatement_spec h p hp).some_map
  · exact (switchStatement_spec h p hp).some_map
  · exact (tryStatement_spec h p hp).some_map
  · next heq =>
    refine (nextToken_spec p hp).bind fun _ q hq h₁ => ?_
    refine (semicolon_spec q hq).bind fun _ r hr h₂ => ?_
    rw [runs_lastEnd]
    refine Runs.pure hr fun _ _ ⟨_, hlt⟩ n hn => ?_
    cases hn
    exact ((Built.begin p).skip (h₁.trans h₂)).node rfl rfl rfl
      ((hlt (by rw [heq]; decide)).trans_le h₂.prevEnd_le) trivial trivial
  · exact exportStatement_spec h p hp
  · exact hunsupported _ p hp (.refl hp)
  · exact hunsupported _ p hp (.refl hp)
  · exact hunsupported _ p hp (.refl hp)

theorem statement_spec :
    Spec (statement g) fun p r q => ∀ n ∈ r, Reads p n q :=
  guarded_spec skipAsEmpty_spec (statementBody_spec h) fun _ _ _ _ _ hr => hr

end Statements

end Parser

end ParamNarrow
