import ParamNarrow.Proofs.Agree.Levels
/-!
# Every loop ends within its rounds

The loops of the parser are given a number of rounds: the size of the text and two. A loop never
needs them all. Each round either consumes a token, and so leaves at least one byte fewer ahead
of the current token, or ends the loop; the loops that guard against a round that consumed
nothing skip the token it stood at. So from a scanner with fewer bytes ahead than rounds one
round more changes nothing (`RoundsSuffice`), and any number more changes nothing either
(`RoundsSuffice.run_add`).

A round is compared with the same round given one more: the steps before its recursive call are
the same on both sides and go forward, and the measure of `Parser.Within` counts the bytes ahead.
With `8 * k` units and eight more a scanner has fewer than `k` bytes ahead; a consumed token frees
the eight units the next round asks for (`Within.round`). Where a round may have consumed nothing
it records the token start it began at (`Past`): a later token start, or the token skipped there,
leaves fewer bytes ahead, and at the end of the file the loop ends at once.

Together with the levels of recursion of `Proofs.Agree.Levels` this is why the parser stops on
every text without its bounds ever deciding a result (`parse_never_runs_out`).
-/

namespace ParamNarrow

namespace Parser

open Scanner

section Rounds

variable {α β : Type} {P : Scanner → Prop} {B c n before : Nat} {s : Scanner}

/-! ### Rounds and credit -/

/-- One more round changes nothing: from every valid scanner with fewer bytes ahead than its
`k` rounds, the loop run with `k` rounds and with `k + 1` ends with the same result and state. -/
def RoundsSuffice (L : Nat → β → ParserM α) : Prop :=
  ∀ k x, Agree (fun s => s.rest < k) (fun _ _ => True) (L k x) (L (k + 1) x)

/-- With `8 * k` units, eight of them left over, fewer than `k` bytes are ahead. -/
theorem within_rounds {k : Nat} : Within (8 * k) 8 s ↔ s.rest < k := by
  unfold Within
  omega

theorem RoundsSuffice.of_within {L : Nat → β → ParserM α}
    (h : ∀ k x, Agree (Within (8 * k) 8) (fun _ _ => True) (L k x) (L (k + 1) x)) :
    RoundsSuffice L :=
  fun k x => (h k x).pre fun _ hs => within_rounds.2 hs

/-- With fewer bytes ahead than rounds, any number of rounds more gives the same run. -/
theorem RoundsSuffice.run_add {L : Nat → β → ParserM α} (h : RoundsSuffice L) {k : Nat}
    (x : β) {p : Parser} (hv : p.scanner.Valid) (hk : p.scanner.rest < k) :
    ∀ j, (L (k + j) x).run p = (L k x).run p
  | 0 => rfl
  | j + 1 => ((h (k + j) x p hv (by omega)).1).symm.trans (h.run_add x hv hk j)

theorem RoundsSuffice.run_budget {L : Nat → β → ParserM α} (h : RoundsSuffice L) (x : β)
    {p : Parser} (hv : p.scanner.Valid) (j : Nat) :
    (L (p.scanner.size + 2 + j) x).run p = (L (p.scanner.size + 2) x).run p :=
  h.run_add x hv (by unfold rest; omega) j

/-- A round that consumed a token leaves the next round the credit it asks for. -/
theorem Within.round (h : Within (8 * (n + 1)) (c + 8) s) : Within (8 * n) c s := by
  unfold Within at *
  omega

theorem Within.zero_rounds (h : Within (8 * 0) 8 s) : False := by
  unfold Within at h
  omega

/-! ### A round that may consume nothing -/

/-- At or past the token start `before`, a token of the text that had at most `n` bytes from
it to the end. -/
def Past (before n : Nat) (s : Scanner) : Prop :=
  before ≤ s.tokenStart ∧ before < s.size ∧ s.size ≤ before + n

theorem Past.of_leadsTo {t : Scanner} (h : Past before n s) (ht : s.LeadsTo t) :
    Past before n t := by
  have hle := ht.tokenStart_le
  have hsize : t.size = s.size := by simp only [size, ht.text_eq]
  exact ⟨Nat.le_trans h.1 hle, hsize ▸ h.2.1, hsize ▸ h.2.2⟩

theorem Past.of_within (hv : s.Valid) (hne : s.token ≠ .endOfFileToken)
    (h : Within (8 * (n + 1)) 8 s) : Past s.tokenStart n s := by
  have hlt := hv.tokenStart_lt_size hne
  unfold Within rest at h
  exact ⟨Nat.le_refl _, hlt, by omega⟩

theorem Past.within_of_ne (h : Past before n s) (hne : s.tokenStart ≠ before) :
    Within (8 * n) 8 s := by
  obtain ⟨h₁, h₂, h₃⟩ := h
  unfold Within rest
  omega

theorem Past.within_of_eq (h : Past before n s) (heq : s.tokenStart = before) :
    Within (8 * (n + 1)) 8 s := by
  obtain ⟨-, -, h₃⟩ := h
  unfold Within rest
  omega

theorem Forward.past {m : ParserM α} (h : Forward m) :
    Agree (Past before n) (fun _ => Past before n) m m :=
  h.agree fun _ _ hs ht => hs.of_leadsTo ht

/-! ### Steps at the end of a round -/

theorem tokenPos_reads : Agree P (fun t s => P s ∧ s.tokenStart = t) tokenPos tokenPos :=
  Agree.readScanner (fun s => s.tokenStart) fun _ => rfl

theorem Agree.of_valid {m m' : ParserM α} {Q : α → Scanner → Prop}
    (h : Agree (fun s => s.Valid ∧ P s) Q m m') : Agree P Q m m' :=
  fun p hv hP => h p hv ⟨hv, hP⟩

theorem Agree.of_runs {m m' : ParserM α} {x : α}
    (h : ∀ p : Parser, P p.scanner → m.run p = (x, p) ∧ m'.run p = (x, p)) :
    Agree P (fun _ _ => True) m m' := by
  intro p hv hP
  obtain ⟨h₁, h₂⟩ := h p hP
  rw [h₁, h₂]
  exact ⟨rfl, .refl hv, trivial⟩

theorem Agree.orEnd {m m' : ParserM α} {E : Scanner → Prop} {x : α}
    (h : Agree (Within (8 * n) 8) (fun _ _ => True) m m')
    (hend : ∀ p : Parser, E p.scanner → m.run p = (x, p) ∧ m'.run p = (x, p)) :
    Agree (fun s => Within (8 * n) 8 s ∨ E s) (fun _ _ => True) m m' :=
  Agree.byCases (Within (8 * n) 8) (h.pre fun _ hs => hs.2)
    (Agree.of_runs fun p hs => hend p (hs.1.resolve_left hs.2))

theorem Agree.frees {m : ParserM α} {q : Scanner → Prop} {c₀ d : Nat} (hd : 0 < d)
    (h : ∀ B, Agree (fun s => Within B c₀ s ∧ q s) (fun _ => Within B (c₀ + d)) m m) :
    Agree (fun s => Within B c s ∧ q s) (fun _ => Within B (c + 8)) m m := by
  intro p hv ⟨hW, hq⟩
  obtain ⟨heq, hlt, hW'⟩ := h (8 * p.scanner.rest + c₀) p hv ⟨Nat.le_refl _, hq⟩
  refine ⟨heq, hlt, ?_⟩
  unfold Within at *
  omega

theorem accept_cases {R : Scanner → Prop} {k : TokenKind} (hk : k ≠ .endOfFileToken) :
    Agree (fun s => Within B c s ∧ R s)
      (fun b s => (b = true → Within B (c + 8) s) ∧
        (b = false → (Within B c s ∧ R s) ∧ s.token ≠ k))
      (accept k) (accept k) := by
  unfold accept
  refine (isToken_agree k).bind fun b => Agree.ite (fun hb => ?_) fun hb => ?_
  · refine (nextToken_consumes.pre fun s hs => ⟨hs.1.1, ?_⟩).bind fun _ =>
      Agree.pure fun _ hs => ⟨fun _ => hs, fun h => absurd h (by decide)⟩
    intro heof
    rw [hb, heof] at hs
    exact hk (beq_iff_eq.1 hs.2).symm
  · refine Agree.pure fun s hs => ⟨fun h => absurd h (by decide), fun _ => ⟨hs.1, ?_⟩⟩
    intro heq
    rw [heq, beq_self_eq_true] at hs
    exact hb hs.2.symm

theorem expect_of_ne {R : Scanner → Prop} {k : TokenKind} :
    Agree (fun s => R s ∧ s.token ≠ k) (fun _ s => R s) (expect k) (expect k) := by
  unfold expect
  refine (isToken_agree k).bind fun b => Agree.ite (fun hb => ?_) fun _ => ?_
  · exact Agree.of_false fun s hs => hs.1.2 (beq_iff_eq.1 (hs.2.trans hb))
  · exact (errorAtToken_agree _).bind fun _ => Agree.pure fun _ hs => hs.1.1

theorem nextToken_eof :
    Agree (fun s => s.token = .endOfFileToken) (fun _ s => s.token = .endOfFileToken)
      nextToken nextToken :=
  fun _ hv he => ⟨rfl, advance_leadsTo hv, advance_eof hv he⟩

theorem literal_eof :
    Agree (fun s => s.token = .endOfFileToken) (fun _ s => s.token = .endOfFileToken)
      literal literal := by
  unfold literal
  refine get_agree.bind fun q => ?_
  extract_lets s
  exact (nextToken_eof.pre fun _ h => h.1).bind fun _ => Agree.pure fun _ h => h

end Rounds

/-! ### Lists and skipping -/

section Lists

variable {e : ParserM Node}

theorem separated_rounds {sep : TokenKind} (hsep : sep ≠ .endOfFileToken) (he : Forward e) :
    ∀ n acc, Agree (Within (8 * n) 8) (fun _ _ => True) (separated.loop sep e n acc)
      (separated.loop sep e (n + 1) acc)
  | 0, _ => Agree.of_false fun _ hs => hs.zero_rounds
  | n + 1, acc => by
    unfold separated.loop
    refine (accept_agree hsep).bind fun b => Agree.ite (fun hb => ?_) fun _ =>
      Agree.pure fun _ _ => trivial
    exact (he.within.pre fun _ hs => hs.2 hb).bind fun x =>
      (separated_rounds hsep he n _).pre fun _ hs => hs.round

theorem delimited_rounds (close : TokenKind) (he : Forward e) :
    ∀ n acc trailing, Agree (Within (8 * n) 8) (fun _ _ => True)
      (delimited.loop close e n acc trailing) (delimited.loop close e (n + 1) acc trailing)
  | 0, _, _ => Agree.of_false fun _ hs => hs.zero_rounds
  | n + 1, acc, trailing => by
    unfold delimited.loop
    refine (isToken_agree close).bind fun _ => (isToken_agree _).bind fun _ => ?_
    refine Agree.ite (fun _ => Agree.pure fun _ _ => trivial) fun _ => ?_
    refine (tokenPos_agree.bind fun before => ?_).pre fun _ h => h.1.1
    refine he.within.bind fun x => (accept_agree (by decide)).bind fun b =>
      Agree.ite (fun hb => ?_) fun _ => ?_
    · exact (((isToken_agree close).bind fun t => (delimited_rounds close he n _ t).pre
        fun _ h => h.1.round).pre fun _ h => h.2 hb)
    refine (isToken_agree close).bind fun t => ?_
    extract_lets jp
    have hjp : ∀ (P : Scanner → Prop) u, Agree P (fun _ _ => True) (jp u) (jp u) := fun _ _ =>
      Agree.pure fun _ _ => trivial
    refine Agree.ite (fun _ => ?_) fun _ => hjp _ ()
    refine ((expect_forward _).pre fun _ _ => trivial).bind fun _ => ?_
    refine tokenPos_agree.bind fun now => Agree.ite (fun _ => ?_) fun _ => hjp _ ()
    exact (nextToken_forward.pre fun _ _ => trivial).bind fun u => hjp _ u

theorem skipToStatementEnd_rounds :
    ∀ n depth, Agree (Within (8 * n) 8) (fun _ _ => True) (skipToStatementEnd.loop n depth)
      (skipToStatementEnd.loop (n + 1) depth)
  | 0, _ => Agree.of_false fun _ hs => hs.zero_rounds
  | n + 1, depth => by
    unfold skipToStatementEnd.loop
    have ih := skipToStatementEnd_rounds n
    refine token_agree.bind fun k => ?_
    have hconsume : k ≠ .endOfFileToken → ∀ d, Agree (fun s => Within (8 * (n + 1)) 8 s ∧
        s.token = k) (fun _ _ => True) (nextToken >>= fun _ => skipToStatementEnd.loop n d)
        (nextToken >>= fun _ => skipToStatementEnd.loop (n + 1) d) := by
      intro hk d
      refine Agree.bind (Q := fun _ => Within (8 * (n + 1)) (8 + 8)) ?_ fun _ =>
        (ih d).pre fun _ hs => hs.round
      exact nextToken_consumes.pre fun _ hs => ⟨hs.1, by rw [hs.2]; exact hk⟩
    split
    · exact Agree.pure fun _ _ => trivial
    · exact hconsume (by decide) _
    · refine Agree.ite (fun _ => ?_) fun _ => hconsume (by decide) _
      exact (nextToken_forward.pre fun _ _ => trivial).bind fun _ => Agree.pure fun _ _ => trivial
    · refine (nextToken_consumes.pre fun _ hs => ⟨hs.1, by rw [hs.2]; decide⟩).bind fun _ => ?_
      exact Agree.ite (fun _ => (ih depth).pre fun _ hs => hs.round) fun _ =>
        Agree.pure fun _ _ => trivial
    · rename_i hend _ _ _
      exact hconsume hend _

theorem qualifiedRest_rounds (start : Nat) :
    ∀ n name, Agree (Within (8 * n) 8) (fun _ _ => True) (qualifiedRest start n name)
      (qualifiedRest start (n + 1) name)
  | 0, _ => Agree.of_false fun _ hs => hs.zero_rounds
  | n + 1, name => by
    unfold qualifiedRest
    refine (accept_agree (by decide)).bind fun b => Agree.ite (fun hb => ?_) fun _ =>
      Agree.pure fun _ _ => trivial
    refine (identifierName_forward.within.pre fun _ hs => hs.2 hb).bind fun right => ?_
    exact lastEnd_agree.bind fun _ => (qualifiedRest_rounds start n _).pre fun _ hs => hs.round

theorem skipInvalid_rounds : ∀ (k : Nat) (p : Parser), p.scanner.Valid → p.scanner.rest < k →
    skipInvalid (k + 1) p = skipInvalid k p
  | 0, _, _, hk => absurd hk (Nat.not_lt_zero _)
  | k + 1, p, hv, hk => by
    unfold skipInvalid
    by_cases hunknown : (p.scanner.token == .unknown) = true
    · rw [if_pos hunknown, if_pos hunknown]
      have hne : p.scanner.token ≠ .endOfFileToken := by
        intro he
        rw [he] at hunknown
        exact absurd hunknown (by decide)
      have hlt := scan_rest_lt hv hne
      exact skipInvalid_rounds k
        { p.reportAtToken .invalidCharacter with scanner := p.scanner.scan }
        (scan_leadsTo hv).valid (show p.scanner.scan.rest < k by omega)
    · rw [if_neg hunknown, if_neg hunknown]

end Lists


/-! ### The loops of the grammar -/

section Grammar

variable {g : Grammar}

theorem spreadOrAssignment_forward (hg : g.GoesForward) : Forward (spreadOrAssignment g) :=
  Forward.of_keeps fun B => spreadOrAssignment_agree (hg.agreeBelow B) (Nat.le_refl 4)

theorem initializer_forward (hg : g.GoesForward) : Forward (initializer g) :=
  Forward.of_keeps fun B => initializer_agree (hg.agreeBelow B) (Nat.le_refl 4)

theorem typeMember_forward (hg : g.GoesForward) : Forward (typeMember g) :=
  Forward.of_keeps fun B => typeMember_agree (hg.agreeBelow B) (Nat.le_refl 4)

theorem clauseStatements_forward (hg : g.GoesForward) (n : Nat) (acc : List Node) :
    Forward (clauseStatements g n acc) :=
  Forward.of_keeps fun B => clauseStatements_agree (hg.agreeBelow B) (Nat.le_refl 6) n acc

theorem arrayBindingElements_rounds (hg : g.GoesForward) :
    ∀ n acc, Agree (Within (8 * n) 8) (fun _ _ => True) (arrayBindingElements g n acc)
      (arrayBindingElements g (n + 1) acc)
  | 0, _ => Agree.of_false fun _ hs => hs.zero_rounds
  | n + 1, acc => by
    have ih := arrayBindingElements_rounds hg n
    unfold arrayBindingElements
    refine (isToken_agree _).bind fun _ => (isToken_agree _).bind fun _ => ?_
    refine Agree.ite (fun _ => Agree.pure fun _ _ => trivial) fun _ => Agree.pre ?_
      fun _ hs => hs.1.1
    refine isToken_bind ?_ ?_
    · refine Agree.ite (fun _ => ?_) fun hb => absurd rfl hb
      refine tokenPos_agree.bind fun pos => ?_
      refine (nextToken_consumes.pre fun s hs => ⟨hs.1, by rw [hs.2]; decide⟩).bind fun _ => ?_
      exact (ih _).pre fun _ hs => hs.round
    refine Agree.ite (fun hb => absurd hb (by decide)) fun _ => ?_
    refine (tokenPos_agree.bind fun start => (accept_forward _).within.bind fun rest => ?_).pre
      fun _ hs => hs.1
    refine hg.bindingName.within.bind fun name => (initializer_forward hg).within.bind fun init =>
      lastEnd_agree.bind fun stop => ?_
    refine (accept_agree (by decide)).bind fun b => Agree.ite (fun hb => ?_) fun _ =>
      Agree.pure fun _ _ => trivial
    exact (ih _).pre fun _ hs => (hs.2 hb).round


theorem typeMemberList_run_eof {p : Parser} (h : p.scanner.token = .endOfFileToken)
    (acc : List Node) : ∀ n, (typeMemberList g n acc).run p = (acc.reverse, p)
  | 0 => rfl
  | n + 1 => by
    simp [typeMemberList, isToken, h]
    rfl

theorem typeMemberList_rounds (hg : g.GoesForward) :
    ∀ n acc, Agree (Within (8 * n) 8) (fun _ _ => True) (typeMemberList g n acc)
      (typeMemberList g (n + 1) acc)
  | 0, _ => Agree.of_false fun _ hs => hs.zero_rounds
  | n + 1, acc => by
    have ih := typeMemberList_rounds hg n
    unfold typeMemberList
    refine (isToken_agree _).bind fun _ => (isToken_agree _).bind fun atEnd => ?_
    refine Agree.ite (fun _ => Agree.pure fun _ _ => trivial) fun hb => ?_
    refine Agree.of_valid ((tokenPos_reads.bind fun before => ?_).pre fun _ hs => hs)
    refine ((@Forward.past _ n before _ (typeMember_forward hg)).pre fun _ hs => ?_).bind
      fun member => ?_
    · obtain ⟨⟨hv, ⟨hW, -⟩, hend⟩, rfl⟩ := hs
      refine Past.of_within hv (fun he => hb ?_) hW
      rw [he] at hend
      simp [← hend]
    refine (accept_forward _).past.bind fun _ => ?_
    extract_lets -underBinder jp jp'
    suffices hjp : ∀ u, Agree (Past before n) (fun _ _ => True) (jp u) (jp' u) by
      refine Agree.ite (fun _ => ?_) fun _ => hjp ()
      refine (accept_forward _).past.bind fun _ => Agree.ite (fun _ => ?_) fun _ => hjp ()
      refine (isToken_agree _).bind fun _ => lineBreakBefore_agree.bind fun _ => Agree.pre ?_
        fun _ hs => hs.1
      exact Agree.ite (fun _ => (expect_forward _).past.bind fun _ => hjp ()) fun _ => hjp ()
    intro u
    unfold jp jp'
    refine tokenPos_reads.bind fun now => ?_
    extract_lets -underBinder jp₁ jp₁'
    have hjp₁ : ∀ u, Agree (fun s => Within (8 * n) 8 s ∨ s.token = .endOfFileToken)
        (fun _ _ => True) (jp₁ u) (jp₁' u) := fun _ =>
      (ih _).orEnd fun p hp =>
        ⟨typeMemberList_run_eof hp _ n, typeMemberList_run_eof hp _ (n + 1)⟩
    refine Agree.ite (fun heq => ?_) fun hne => (hjp₁ ()).pre fun s hs => .inl ?_
    · refine Agree.byCases (fun s => s.token = .endOfFileToken) ?_ ?_
      · exact (nextToken_eof.pre fun _ hs => hs.2).bind fun u => (hjp₁ u).pre fun _ hs => .inr hs
      · refine (nextToken_consumes.pre fun s hs => ⟨?_, hs.2⟩).bind fun u =>
          (hjp₁ u).pre fun _ hs => .inl hs.round
        exact hs.1.1.within_of_eq (hs.1.2.trans (beq_iff_eq.1 heq))
    · exact hs.1.within_of_ne fun h => hne (beq_iff_eq.2 (hs.2.symm.trans h))


theorem postfixRest_rounds (hg : g.GoesForward) (start : Nat) :
    ∀ n type, Agree (Within (8 * n) 8) (fun _ _ => True) (postfixRest g start n type)
      (postfixRest g start (n + 1) type)
  | 0, _ => Agree.of_false fun _ hs => hs.zero_rounds
  | n + 1, type => by
    have ih := postfixRest_rounds hg start n
    unfold postfixRest
    refine isToken_bind ?_ ?_
    · refine lineBreakBefore_agree.bind fun _ => Agree.ite (fun _ => ?_) fun _ =>
        Agree.pure fun _ _ => trivial
      refine (nextToken_consumes.pre fun s hs => ⟨hs.1, by rw [hs.2]; decide⟩).bind fun _ => ?_
      refine (accept_forward _).within.bind fun b => Agree.ite (fun _ => ?_) fun _ => ?_
      · exact lastEnd_agree.bind fun _ => (ih _).pre fun _ hs => hs.round
      · refine hg.type.within.bind fun index => (expect_forward _).within.bind fun _ => ?_
        exact lastEnd_agree.bind fun _ => (ih _).pre fun _ hs => hs.round
    · exact lineBreakBefore_agree.bind fun _ => Agree.ite (fun hb => absurd hb (by simp)) fun _ =>
        Agree.pure fun _ _ => trivial

theorem templateSpans_rounds (hg : g.GoesForward) :
    ∀ n acc, Agree (Within (8 * n) 8) (fun _ _ => True) (templateSpans g n acc)
      (templateSpans g (n + 1) acc)
  | 0, _ => Agree.of_false fun _ hs => hs.zero_rounds
  | n + 1, acc => by
    have ih := templateSpans_rounds hg n
    unfold templateSpans
    refine tokenPos_agree.bind fun start => hg.expression.within.bind fun e => ?_
    refine (isToken_agree _).bind fun _ => Agree.pre ?_ fun _ hs => hs.1
    refine Agree.ite (fun _ => (errorAtToken_agree _).bind fun _ => Agree.pure fun _ _ => trivial)
      fun _ => ?_
    refine rescanTemplate_forward.within.bind fun _ => token_agree.bind fun k => ?_
    by_cases hk : k = .endOfFileToken
    · subst hk
      refine (literal_forward.pre fun _ _ => trivial).bind fun text =>
        lastEnd_agree.bind fun _ => ?_
      exact Agree.ite (fun _ => Agree.pure fun _ _ => trivial) fun hb => absurd (by decide) hb
    · refine (literal_consumes.pre fun s hs => ⟨hs.1, by rw [hs.2]; exact hk⟩).bind fun text =>
        lastEnd_agree.bind fun _ => ?_
      exact Agree.ite (fun _ => Agree.pure fun _ _ => trivial) fun _ =>
        (ih _).pre fun _ hs => hs.round

theorem arrayElements_rounds (hg : g.GoesForward) :
    ∀ n acc, Agree (Within (8 * n) 8) (fun _ _ => True) (arrayElements g n acc)
      (arrayElements g (n + 1) acc)
  | 0, _ => Agree.of_false fun _ hs => hs.zero_rounds
  | n + 1, acc => by
    have ih := arrayElements_rounds hg n
    unfold arrayElements
    refine (isToken_agree _).bind fun _ => (isToken_agree _).bind fun _ => ?_
    refine Agree.ite (fun _ => Agree.pure fun _ _ => trivial) fun _ => Agree.pre ?_
      fun _ hs => hs.1.1
    refine isToken_bind ?_ ?_
    · refine Agree.ite (fun _ => ?_) fun hb => absurd rfl hb
      refine tokenPos_agree.bind fun pos => ?_
      refine (nextToken_consumes.pre fun s hs => ⟨hs.1, by rw [hs.2]; decide⟩).bind fun _ => ?_
      exact (ih _).pre fun _ hs => hs.round
    refine Agree.ite (fun hb => absurd hb (by decide)) fun _ => ?_
    refine ((spreadOrAssignment_forward hg).within.pre fun _ hs => hs.1).bind fun e => ?_
    refine (accept_agree (by decide)).bind fun b => Agree.ite (fun hb => ?_) fun _ =>
      Agree.pure fun _ _ => trivial
    exact (ih _).pre fun _ hs => (hs.2 hb).round

theorem commaRest_rounds (hg : g.GoesForward) (start : Nat) :
    ∀ n left, Agree (Within (8 * n) 8) (fun _ _ => True) (commaRest g start n left)
      (commaRest g start (n + 1) left)
  | 0, _ => Agree.of_false fun _ hs => hs.zero_rounds
  | n + 1, left => by
    unfold commaRest
    refine isToken_bind ?_
      (Agree.ite (fun _ => Agree.pure fun _ _ => trivial) fun hb => absurd rfl hb)
    refine Agree.ite (fun hb => absurd hb (by decide)) fun _ => ?_
    refine (nextToken_consumes.pre fun s hs => ⟨hs.1, by rw [hs.2]; decide⟩).bind fun _ => ?_
    exact hg.assignment.within.bind fun right => lastEnd_agree.bind fun _ =>
      (commaRest_rounds hg start n _).pre fun _ hs => hs.round

theorem binaryRest_rounds (hg : g.GoesForward) (start minPrec : Nat) :
    ∀ n left, Agree (Within (8 * n) 8) (fun _ _ => True) (binaryRest g start minPrec n left)
      (binaryRest g start minPrec (n + 1) left)
  | 0, _ => Agree.of_false fun _ hs => hs.zero_rounds
  | n + 1, left => by
    have ih := binaryRest_rounds hg start minPrec n
    unfold binaryRest
    refine (isToken_agree _).bind fun _ => Agree.pre ?_ fun _ hs => hs.1
    extract_lets -underBinder jp jp'
    suffices hjp : ∀ u, Agree (Within (8 * (n + 1)) 8) (fun _ _ => True) (jp u) (jp' u) by
      exact Agree.ite (fun _ => rescanGreater_forward.within.bind hjp) fun _ => hjp ()
    intro u
    unfold jp jp'
    refine token_agree.bind fun op => get_agree.bind fun q => ?_
    extract_lets -underBinder prec
    refine Agree.ite (fun _ => Agree.pure fun _ _ => trivial) fun hprec => ?_
    refine Agree.ite (fun _ => Agree.pure fun _ _ => trivial) fun _ => ?_
    have hop : op ≠ .endOfFileToken := by
      intro he
      apply hprec
      show (binaryPrecedence op q.context.disallowIn == 0) = true
      rw [he]
      cases q.context.disallowIn <;> rfl
    refine Agree.pre (P := fun s => Within (8 * (n + 1)) 8 s ∧ s.token ≠ .endOfFileToken) ?_
      fun s hs => ⟨hs.1.1, by rw [hs.1.2]; exact hop⟩
    refine Agree.ite (fun _ => ?_) fun _ => ?_
    · refine lineBreakBefore_agree.bind fun _ => Agree.ite (fun _ => Agree.pure fun _ _ => trivial)
        fun _ => ?_
      refine nextToken_consumes.bind fun _ => hg.type.within.bind fun type =>
        lastEnd_agree.bind fun stop => ?_
      extract_lets -underBinder e
      exact (ih _).pre fun _ hs => hs.round
    · refine nextToken_consumes.bind fun _ => (hg.binary prec).within.bind fun right => ?_
      exact lastEnd_agree.bind fun _ => (ih _).pre fun _ hs => hs.round


theorem callRest_frees (hg : g.GoesForward) (start : Nat) (callee : Node)
    (typeArgs : Option (List Node)) (questionDot : Bool) :
    Agree (fun s => Within B c s ∧ s.token = .openParenToken) (fun _ => Within B (c + 8))
      (callRest g start callee typeArgs questionDot)
      (callRest g start callee typeArgs questionDot) :=
  @Agree.frees _ _ _ _ _ 0 4 (by decide) fun B =>
    (callRest_agree (hg.agreeBelow B) start callee typeArgs questionDot).at

theorem elementAccessRest_frees (hg : g.GoesForward) (start : Nat) (object : Node)
    (questionDot : Bool) :
    Agree (fun s => Within B c s ∧ s.token = .openBracketToken) (fun _ => Within B (c + 8))
      (elementAccessRest g start object questionDot)
      (elementAccessRest g start object questionDot) :=
  @Agree.frees _ _ _ _ _ 0 5 (by decide) fun B =>
    (elementAccessRest_agree (hg.agreeBelow B) start object questionDot).at

theorem taggedTemplateRest_rounds (hg : g.GoesForward) (start : Nat) (tag : Node)
    (typeArgs : Option (List Node)) :
    Agree (Within (8 * (n + 1)) 8) (fun _ s => Within (8 * n) 8 s ∨ s.token = .endOfFileToken)
      (taggedTemplateRest g start tag typeArgs) (taggedTemplateRest g start tag typeArgs) := by
  unfold taggedTemplateRest
  refine isToken_bind ?_ ?_
  · extract_lets -underBinder jp
    refine Agree.ite (fun _ => (templateExpression_at (hg.agreeBelow _)).bind fun t => ?_)
      fun hb => absurd rfl hb
    exact lastEnd_agree.bind fun _ => Agree.pure fun _ hs => .inl hs.round
  · extract_lets -underBinder jp
    refine Agree.ite (fun hb => absurd hb (by decide)) fun _ => ?_
    refine Agree.byCases (fun s => s.token = .endOfFileToken) ?_ ?_
    · exact (literal_eof.pre fun _ hs => hs.2).bind fun t => lastEnd_agree.bind fun _ =>
        Agree.pure fun _ hs => .inr hs
    · exact (literal_consumes.pre fun _ hs => ⟨hs.1.1, hs.2⟩).bind fun t =>
        lastEnd_agree.bind fun _ => Agree.pure fun _ hs => .inl hs.round

theorem memberRest_run_eof {p : Parser} (h : p.scanner.token = .endOfFileToken) (start : Nat)
    (allowCalls : Bool) (e : Node) : ∀ n, (memberRest g start allowCalls n e).run p = (e, p)
  | 0 => rfl
  | n + 1 => by
    simp [memberRest, token, h]
    rfl

theorem memberRest_rounds (hg : g.GoesForward) (start : Nat) (allowCalls : Bool) :
    ∀ n e, Agree (Within (8 * n) 8) (fun _ _ => True) (memberRest g start allowCalls n e)
      (memberRest g start allowCalls (n + 1) e)
  | 0, _ => Agree.of_false fun _ hs => hs.zero_rounds
  | n + 1, e => by
    have ih := memberRest_rounds hg start allowCalls n
    have hnext : ∀ e, Agree (Within (8 * (n + 1)) (8 + 8)) (fun _ _ => True)
        (memberRest g start allowCalls n e) (memberRest g start allowCalls (n + 1) e) := fun e =>
      (ih e).pre fun _ hs => hs.round
    have hend : ∀ e, Agree (fun s => Within (8 * n) 8 s ∨ s.token = .endOfFileToken)
        (fun _ _ => True) (memberRest g start allowCalls n e)
        (memberRest g start allowCalls (n + 1) e) := fun e =>
      (ih e).orEnd fun p hp => ⟨memberRest_run_eof hp start allowCalls e n,
        memberRest_run_eof hp start allowCalls e (n + 1)⟩
    unfold memberRest
    refine token_agree.bind fun k => ?_
    split
    case h_1 =>
      refine (nextToken_consumes.pre fun s hs => ⟨hs.1, by rw [hs.2]; decide⟩).bind fun _ =>
        (isToken_agree _).bind fun _ => Agree.pre ?_ fun _ hs => hs.1
      extract_lets -underBinder jp jp'
      have hjp : ∀ u, Agree (Within (8 * (n + 1)) (8 + 8)) (fun _ _ => True) (jp u) (jp' u) :=
        fun _ => identifierName_forward.within.bind fun name => lastEnd_agree.bind fun _ => hnext _
      exact Agree.ite (fun _ => (reportUnsupported_agree _).bind hjp) fun _ => hjp ()
    case h_2 =>
      refine (nextToken_consumes.pre fun s hs => ⟨hs.1, by rw [hs.2]; decide⟩).bind fun _ =>
        token_agree.bind fun k => Agree.pre ?_ fun _ hs => hs.1
      extract_lets -underBinder jp jp'
      have hjp : ∀ e, Agree (Within (8 * (n + 1)) (8 + 8)) (fun _ _ => True) (jp e) (jp' e) :=
        hnext
      have hcall : ∀ args, Forward (callRest g start e args true) := fun args =>
        Forward.of_keeps fun B => (callRest_agree (hg.agreeBelow B) start e args true).within
          (Nat.le_refl 4)
      have hargs : Forward (typeArguments g) :=
        Forward.of_keeps (c := 0) fun B => typeArguments_agree (hg.agreeBelow B)
      have hindex : Forward (elementAccessRest g start e true) :=
        Forward.of_keeps fun B => (elementAccessRest_agree (hg.agreeBelow B) start e true).within
          (Nat.le_refl 5)
      refine Agree.ite (fun _ => (hcall _).within.bind hjp) fun _ => ?_
      refine Agree.ite (fun _ => hargs.within.bind fun args => (hcall _).within.bind hjp)
        fun _ => ?_
      refine Agree.ite (fun _ => hindex.within.bind hjp) fun _ => ?_
      exact identifierName_forward.within.bind fun name => lastEnd_agree.bind fun _ =>
        (Agree.pure fun _ hs => hs).bind hjp
    case h_3 => exact (elementAccessRest_frees hg _ _ _).bind hnext
    case h_4 =>
      refine (lineBreakBefore_agree.bind fun _ => Agree.ite (fun _ => Agree.pure fun _ _ => trivial)
        fun _ => ?_)
      exact (nextToken_consumes.pre fun s hs => ⟨hs.1, by rw [hs.2]; decide⟩).bind fun _ =>
        lastEnd_agree.bind fun _ => hnext _
    case h_5 | h_6 => exact ((taggedTemplateRest_rounds hg _ _ _).pre fun _ hs => hs.1).bind hend
    case h_7 =>
      exact Agree.ite (fun _ => Agree.pure fun _ _ => trivial) fun _ =>
        (callRest_frees hg _ _ _ _).bind hnext
    case h_8 =>
      have hcalls : Forward (typeArgumentsOfCall g allowCalls) :=
        Forward.of_keeps (c := 0) fun B => typeArgumentsOfCall_agree (hg.agreeBelow B) allowCalls
      refine (hcalls.within.pre fun _ hs => hs.1).bind fun r => ?_
      rcases r with _ | args
      · exact Agree.pure fun _ _ => trivial
      refine isToken_bind ?_ ?_
      · extract_lets -underBinder jp jp'
        exact Agree.ite (fun _ => (callRest_frees hg _ _ _ _).bind hnext) fun hb => absurd rfl hb
      · extract_lets -underBinder jp jp'
        exact Agree.ite (fun hb => absurd hb (by decide)) fun _ =>
          ((taggedTemplateRest_rounds hg _ _ _).pre fun _ hs => hs.1).bind hend
    case h_9 => exact Agree.pure fun _ _ => trivial


theorem statementItems_run_exit {top : Bool} {p : Parser}
    (h : p.scanner.token = .endOfFileToken ∨ (p.scanner.token = .closeBraceToken ∧ top = false))
    (acc : List Node) : ∀ n, (statementItems g top n acc).run p = (acc.reverse, p)
  | 0 => rfl
  | n + 1 => by
    rcases h with h | ⟨h, rfl⟩
    · simp [statementItems, isToken, h]
      rfl
    · simp [statementItems, isToken, h]
      rfl

theorem statementItems_rounds (hg : g.GoesForward) (top : Bool) :
    ∀ n acc, Agree (Within (8 * n) 8) (fun _ _ => True) (statementItems g top n acc)
      (statementItems g top (n + 1) acc)
  | 0, _ => Agree.of_false fun _ hs => hs.zero_rounds
  | n + 1, acc => by
    have ih := statementItems_rounds hg top n
    unfold statementItems
    refine isToken_bind
      (Agree.ite (fun _ => Agree.pure fun _ _ => trivial) fun hb => absurd rfl hb) ?_
    refine Agree.ite (fun hb => absurd hb (by decide)) fun _ => ?_
    refine isToken_bind ?_ ?_
    · refine Agree.ite (fun _ => ?_) fun hb => absurd rfl hb
      refine Agree.ite (fun _ => Agree.pure fun _ _ => trivial) fun _ => ?_
      refine (errorAtToken_agree _).bind fun _ => ?_
      refine (nextToken_consumes.pre fun _ hs => ⟨hs.1.1, hs.1.2⟩).bind fun _ => ?_
      exact (ih acc).pre fun _ hs => hs.round
    refine Agree.ite (fun hb => absurd hb (by decide)) fun _ => ?_
    refine Agree.of_valid ((tokenPos_reads.bind fun before => ?_).pre fun _ hs => hs)
    refine ((@Forward.past _ n before _ hg.statement).pre fun _ hs => ?_).bind fun r => ?_
    · obtain ⟨⟨hv, ⟨hW, hne⟩, -⟩, rfl⟩ := hs
      exact Past.of_within hv hne hW
    extract_lets -underBinder acc'
    refine tokenPos_reads.bind fun now => (isToken_agree _).bind fun atEnd =>
      (isToken_agree _).bind fun atClose => ?_
    extract_lets -underBinder jp jp'
    -- the next round starts with fewer bytes ahead, or the list ends at once
    have hjp : ∀ u, Agree (fun s => Within (8 * n) 8 s ∨ (s.token = .endOfFileToken ∨
        (s.token = .closeBraceToken ∧ top = false))) (fun _ _ => True) (jp u) (jp' u) := fun _ =>
      (ih acc').orEnd fun p hp => ⟨statementItems_run_exit hp acc' n,
        statementItems_run_exit hp acc' (n + 1)⟩
    refine Agree.ite (fun hb => ?_) fun hb => (hjp ()).pre fun s hs => ?_
    · simp only [Bool.and_eq_true, beq_iff_eq, Bool.not_eq_true'] at hb
      obtain ⟨⟨rfl, rfl⟩, hclose⟩ := hb
      refine (nextToken_consumes.pre fun s hs => ⟨?_, ?_⟩).bind fun _ =>
        (hjp ()).pre fun _ hs => .inl hs.round
      · exact hs.1.1.1.within_of_eq hs.1.1.2
      · simpa using hs.1.2
    · obtain ⟨⟨⟨hpast, rfl⟩, hend⟩, hclose⟩ := hs
      by_cases heq : s.tokenStart = before
      · right
        subst heq
        cases atEnd <;> cases atClose <;> cases top <;> simp_all
      · exact .inl (hpast.within_of_ne heq)

theorem clauseStatements_run_eof {p : Parser} (h : p.scanner.token = .endOfFileToken)
    (acc : List Node) : ∀ n, (clauseStatements g n acc).run p = (acc.reverse, p)
  | 0 => rfl
  | n + 1 => by
    simp [clauseStatements, token, h]
    rfl

theorem clauseStatements_rounds (hg : g.GoesForward) :
    ∀ n acc, Agree (Within (8 * n) 8) (fun _ _ => True) (clauseStatements g n acc)
      (clauseStatements g (n + 1) acc)
  | 0, _ => Agree.of_false fun _ hs => hs.zero_rounds
  | n + 1, acc => by
    have ih := clauseStatements_rounds hg n
    unfold clauseStatements
    refine token_agree.bind fun k => ?_
    refine Agree.ite (fun _ => Agree.pure fun _ _ => trivial) fun hk => ?_
    refine Agree.of_valid ((tokenPos_reads.bind fun before => ?_).pre fun _ hs => hs)
    refine ((@Forward.past _ n before _ hg.statement).pre fun _ hs => ?_).bind fun r => ?_
    · obtain ⟨⟨hv, hW, rfl⟩, rfl⟩ := hs
      refine Past.of_within hv (fun he => hk ?_) hW
      simp [he]
    extract_lets -underBinder acc'
    refine tokenPos_reads.bind fun now => ?_
    extract_lets -underBinder jp jp'
    have hjp : ∀ u, Agree (fun s => Within (8 * n) 8 s ∨ s.token = .endOfFileToken)
        (fun _ _ => True) (jp u) (jp' u) := fun _ =>
      (ih _).orEnd fun p hp =>
        ⟨clauseStatements_run_eof hp _ n, clauseStatements_run_eof hp _ (n + 1)⟩
    refine Agree.ite (fun heq => ?_) fun hne => (hjp ()).pre fun s hs => .inl ?_
    · refine Agree.byCases (fun s => s.token = .endOfFileToken) ?_ ?_
      · exact (nextToken_eof.pre fun _ hs => hs.2).bind fun u => (hjp u).pre fun _ hs => .inr hs
      · refine (nextToken_consumes.pre fun s hs => ⟨?_, hs.2⟩).bind fun u =>
          (hjp u).pre fun _ hs => .inl hs.round
        exact hs.1.1.within_of_eq (hs.1.2.trans (beq_iff_eq.1 heq))
    · exact hs.1.within_of_ne fun h => hne (beq_iff_eq.2 (hs.2.symm.trans h))

theorem switchClauses_rounds (hg : g.GoesForward) :
    ∀ n acc, Agree (Within (8 * n) 8) (fun _ _ => True) (switchClauses g n acc)
      (switchClauses g (n + 1) acc)
  | 0, _ => Agree.of_false fun _ hs => hs.zero_rounds
  | n + 1, acc => by
    have ih := switchClauses_rounds hg n
    have hnext : ∀ acc, Agree (Within (8 * (n + 1)) (8 + 8)) (fun _ _ => True)
        (switchClauses g n acc) (switchClauses g (n + 1) acc) := fun acc =>
      (ih acc).pre fun _ hs => hs.round
    unfold switchClauses
    refine (isToken_agree _).bind fun _ => (isToken_agree _).bind fun atEnd => ?_
    refine Agree.ite (fun _ => Agree.pure fun _ _ => trivial) fun hb => ?_
    refine (tokenPos_agree.bind fun start => ?_).pre (P := fun s => Within (8 * (n + 1)) 8 s ∧
      s.token ≠ .endOfFileToken) ?_
    rotate_left
    · intro s hs
      refine ⟨hs.1.1, fun he => hb ?_⟩
      rw [he] at hs
      simp [← hs.2]
    refine (accept_cases (R := fun s => s.token ≠ .endOfFileToken) (by decide)).bind fun b =>
      Agree.ite (fun hb => ?_) fun hb => ?_
    · refine (hg.expression.within.pre fun _ hs => hs.1 hb).bind fun e => ?_
      refine (expect_forward _).within.bind fun _ => budget_agree.bind fun m => ?_
      exact (clauseStatements_forward hg m []).within.bind fun statements =>
        lastEnd_agree.bind fun _ => hnext _
    refine (accept_cases (B := 8 * (n + 1)) (c := 8)
      (R := fun s => s.token ≠ .endOfFileToken ∧ s.token ≠ .caseKeyword) (by decide)).pre
        (fun _ hs => ?_) |>.bind fun b => Agree.ite (fun hb => ?_) fun hb => ?_
    · obtain ⟨⟨hW, hne⟩, hcase⟩ := hs.2 (Bool.of_not_eq_true hb)
      exact ⟨hW, hne, hcase⟩
    · refine ((expect_forward _).within.pre fun _ hs => hs.1 hb).bind fun _ => ?_
      refine budget_agree.bind fun m => (clauseStatements_forward hg m []).within.bind
        fun statements => ?_
      exact lastEnd_agree.bind fun _ => hnext _
    refine (expect_of_ne (R := fun s => Within (8 * (n + 1)) 8 s ∧ s.token ≠ .endOfFileToken)
      |>.pre fun _ hs => ?_).bind fun _ => ?_
    · obtain ⟨⟨hW, hne, hcase⟩, -⟩ := hs.2 (Bool.of_not_eq_true hb)
      exact ⟨⟨hW, hne⟩, hcase⟩
    exact nextToken_consumes.bind fun _ => hnext acc

end Grammar

end Parser

open ParamNarrow.Parser

/-- Every loop of the parser over the grammar `g` ends within its rounds: those of the grammar,
and the list and skipping steps over any element that goes forward. -/
structure Grammar.LoopsEnd (g : Grammar) : Prop where
  skipInvalid : ∀ (k : Nat) (p : Parser), p.scanner.Valid → p.scanner.rest < k →
    skipInvalid (k + 1) p = skipInvalid k p
  separated : ∀ sep, sep ≠ .endOfFileToken → ∀ e : ParserM Node, Forward e →
    RoundsSuffice (separated.loop sep e)
  delimited : ∀ (close : TokenKind) (e : ParserM Node), Forward e →
    RoundsSuffice fun k (x : List Node × Bool) => delimited.loop close e k x.1 x.2
  skipToStatementEnd : RoundsSuffice skipToStatementEnd.loop
  qualifiedRest : ∀ start, RoundsSuffice (qualifiedRest start)
  arrayBindingElements : RoundsSuffice (arrayBindingElements g)
  typeMemberList : RoundsSuffice (typeMemberList g)
  postfixRest : ∀ start, RoundsSuffice (postfixRest g start)
  templateSpans : RoundsSuffice (templateSpans g)
  arrayElements : RoundsSuffice (arrayElements g)
  memberRest : ∀ start allowCalls, RoundsSuffice (memberRest g start allowCalls)
  binaryRest : ∀ start minPrec, RoundsSuffice (binaryRest g start minPrec)
  commaRest : ∀ start, RoundsSuffice (commaRest g start)
  statementItems : ∀ topLevel, RoundsSuffice (statementItems g topLevel)
  clauseStatements : RoundsSuffice (clauseStatements g)
  switchClauses : RoundsSuffice (switchClauses g)

/-- In a grammar that goes forward every loop ends within its rounds. -/
theorem Grammar.GoesForward.loopsEnd {g : Grammar} (hg : g.GoesForward) : g.LoopsEnd where
  skipInvalid := skipInvalid_rounds
  separated _ hsep _ he := .of_within (separated_rounds hsep he)
  delimited close _ he := .of_within fun k x => delimited_rounds close he k x.1 x.2
  skipToStatementEnd := .of_within skipToStatementEnd_rounds
  qualifiedRest start := .of_within (qualifiedRest_rounds start)
  arrayBindingElements := .of_within (arrayBindingElements_rounds hg)
  typeMemberList := .of_within (typeMemberList_rounds hg)
  postfixRest start := .of_within (postfixRest_rounds hg start)
  templateSpans := .of_within (templateSpans_rounds hg)
  arrayElements := .of_within (arrayElements_rounds hg)
  memberRest start allowCalls := .of_within (memberRest_rounds hg start allowCalls)
  binaryRest start minPrec := .of_within (binaryRest_rounds hg start minPrec)
  commaRest start := .of_within (commaRest_rounds hg start)
  statementItems topLevel := .of_within (statementItems_rounds hg topLevel)
  clauseStatements := .of_within (clauseStatements_rounds hg)
  switchClauses := .of_within (switchClauses_rounds hg)

/-- The parser stops on every text, and neither of its bounds decides what it reads: with any
number of levels of recursion more than the text asks for the parse is the same, and in the
grammar of any number of levels every loop ends within its rounds, each round consuming a token
or ending the loop. -/
theorem parse_never_runs_out (fileName text : String) :
    (∀ j, parseFileWith (Grammar.ofFuel (Grammar.fuelFor text + j)) fileName text =
      parseFile fileName text) ∧
    ∀ n, (Grammar.ofFuel n).LoopsEnd :=
  ⟨fun j => parseFileWith_ofFuel fileName text (Nat.le_add_right _ j),
    fun n => (Grammar.ofFuel_goesForward n).loopsEnd⟩

end ParamNarrow
