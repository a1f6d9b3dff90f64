import ParamNarrow.Proofs.ScannerProgress
import ParamNarrow.Syntax.Parser.Cursor
/-!
# Parser steps that agree

The grammar is run with a fixed number of levels of recursion, `Grammar.ofFuel`. To show that the
levels never run out we compare the parser at two levels, step by step: `Agree P Q m m'` says that
from every valid scanner admitted by `P` the steps `m` and `m'` end with the same result and the
same state, that this state's scanner follows the first (`Scanner.LeadsTo`: the same text, a valid
token, a token start no earlier), and that `Q` holds of the result and the scanner. The rules for
`pure`, `>>=`, `if` and reads make such a statement follow the code of a rule line by line.

The measure is `Within B c`: `B` units of fuel pay eight for each byte ahead of the current token
and `c` more. A step that consumes a token other than the end of the file leaves at least one
byte fewer ahead and so frees eight units (`nextToken_consumes`, `expect_consumes`,
`accept_agree`); every other step keeps the credit it had (`Within.of_leadsTo`).

A step that does not depend on the grammar agrees with itself; `Forward m` says so with no
condition, and it holds of every step here that does not reach the grammar.

These rule-by-rule agreements are kept apart from the rule-by-rule specs of `Proofs.Tree`. Those
specs are about one run of any sound grammar, from a state reached by parsing, and they track the
whole parser state. Agreement relates two grammars, holds only of the fuel grammar, and needs only
a valid scanner.
-/

namespace ParamNarrow

namespace Parser

open Scanner

/-! ### Moving on -/

theorem skipInvalid_leadsTo :
    ∀ (n : Nat) (p : Parser), p.scanner.Valid → p.scanner.LeadsTo (skipInvalid n p).scanner
  | 0, _, hv => .refl hv
  | n + 1, p, hv => by
    unfold skipInvalid
    split
    · have h := scan_leadsTo hv
      exact h.trans (skipInvalid_leadsTo n
        { p.reportAtToken .invalidCharacter with scanner := p.scanner.scan } h.valid)
    · exact .refl hv

theorem advance_valid {p : Parser} (h : p.scanner.EofAtEnd) : (advance p).scanner.Valid :=
  (skipInvalid_leadsTo _ { p with prevEnd := p.scanner.pos, scanner := p.scanner.scan }
    (scan_valid p.scanner h).1).valid

theorem advance_leadsTo {p : Parser} (hv : p.scanner.Valid) :
    p.scanner.LeadsTo (advance p).scanner := by
  have h := scan_leadsTo hv
  exact h.trans (skipInvalid_leadsTo _
    { p with prevEnd := p.scanner.pos, scanner := p.scanner.scan } h.valid)

theorem skipInvalid_of_ne {p : Parser} (h : p.scanner.token ≠ .unknown) :
    ∀ n, skipInvalid n p = p
  | 0 => rfl
  | n + 1 => by
    unfold skipInvalid
    simp [h]

theorem advance_eof {p : Parser} (hv : p.scanner.Valid)
    (he : p.scanner.token = .endOfFileToken) : (advance p).scanner.token = .endOfFileToken := by
  have hs := scan_eof hv he
  unfold advance
  rw [skipInvalid_of_ne (by simp [hs])]
  exact hs

theorem advance_rest_lt {p : Parser} (hv : p.scanner.Valid)
    (hne : p.scanner.token ≠ .endOfFileToken) :
    (advance p).scanner.rest < p.scanner.rest := by
  have h := scan_leadsTo hv
  exact Nat.lt_of_le_of_lt (skipInvalid_leadsTo _
    { p with prevEnd := p.scanner.pos, scanner := p.scanner.scan } h.valid).rest_le
    (scan_rest_lt hv hne)

/-! ### Credit -/

/-- With `B` units of fuel: eight for each byte ahead of the token start, and `c` more. -/
def Within (B c : Nat) (s : Scanner) : Prop :=
  8 * s.rest + c ≤ B

theorem Within.of_leadsTo {B c : Nat} {s t : Scanner} (h : Within B c s) (ht : s.LeadsTo t) :
    Within B c t := by
  have := ht.rest_le
  unfold Within at *
  omega

theorem Within.mono {B c d : Nat} {s : Scanner} (h : Within B c s) (hd : d ≤ c) :
    Within B d s := by
  unfold Within at *
  omega

/-! ### Agreement -/

/-- Two steps agree from the scanners that `P` admits: they end with the same result and state,
that state's scanner follows the first, and `Q` holds of the result and that scanner. -/
def Agree {α : Type} (P : Scanner → Prop) (Q : α → Scanner → Prop) (m m' : ParserM α) : Prop :=
  ∀ p : Parser, p.scanner.Valid → P p.scanner →
    m.run p = m'.run p ∧ p.scanner.LeadsTo (m.run p).2.scanner ∧
      Q (m.run p).1 (m.run p).2.scanner

section Rules

variable {α β : Type} {P P' : Scanner → Prop} {Q Q' : α → Scanner → Prop}
  {R : β → Scanner → Prop} {m m' n n' : ParserM α} {f f' : α → ParserM β}

theorem Agree.pure {x : α} (h : ∀ s, P s → Q x s) : Agree P Q (pure x) (pure x) :=
  fun _ hv hP => ⟨rfl, .refl hv, h _ hP⟩

theorem Agree.bind (hm : Agree P Q m m') (hf : ∀ a, Agree (Q a) R (f a) (f' a)) :
    Agree P R (m >>= f) (m' >>= f') := by
  intro p hv hP
  obtain ⟨heq, hlt, hQ⟩ := hm p hv hP
  obtain ⟨heq', hlt', hR⟩ := hf (m.run p).1 (m.run p).2 hlt.valid hQ
  refine ⟨?_, hlt.trans hlt', hR⟩
  show (f (m.run p).1).run (m.run p).2 = (f' (m'.run p).1).run (m'.run p).2
  rw [← heq]
  exact heq'

theorem Agree.mono (h : Agree P Q m m') (hP : ∀ s, P' s → P s) (hQ : ∀ a s, Q a s → Q' a s) :
    Agree P' Q' m m' := fun p hv hP' =>
  let ⟨heq, hlt, hQm⟩ := h p hv (hP _ hP')
  ⟨heq, hlt, hQ _ _ hQm⟩

theorem Agree.pre (h : Agree P Q m m') (hP : ∀ s, P' s → P s) : Agree P' Q m m' :=
  h.mono hP fun _ _ h => h

theorem Agree.post (h : Agree P Q m m') (hQ : ∀ a s, Q a s → Q' a s) : Agree P Q' m m' :=
  h.mono (fun _ h => h) hQ

theorem Agree.of_false (h : ∀ s, P s → False) : Agree P Q m m' :=
  fun _ _ hP => (h _ hP).elim

theorem Agree.byCases (q : Scanner → Prop) (h₁ : Agree (fun s => P s ∧ q s) Q m m')
    (h₂ : Agree (fun s => P s ∧ ¬q s) Q m m') : Agree P Q m m' := by
  intro p hv hP
  by_cases hq : q p.scanner
  · exact h₁ p hv ⟨hP, hq⟩
  · exact h₂ p hv ⟨hP, hq⟩

theorem Agree.ite {c : Prop} [Decidable c] (ht : c → Agree P Q m m')
    (he : ¬c → Agree P Q n n') : Agree P Q (if c then m else n) (if c then m' else n') := by
  by_cases hc : c
  · simpa [hc] using ht hc
  · simpa [hc] using he hc

theorem Agree.guardedAlt {c : Prop} [Decidable c] {la : ParserM Bool}
    (hla : Agree P (fun _ s => P s) la la) (hm : Agree P Q m m') (hn : Agree P Q n n') :
    Agree P Q (if c then la >>= fun b => if b = true then m else n else n)
      (if c then la >>= fun b => if b = true then m' else n' else n') :=
  Agree.ite (fun _ => hla.bind fun _ => Agree.ite (fun _ => hm) fun _ => hn) fun _ => hn

theorem Agree.map {S : Scanner → Prop} (h : Agree P (fun _ => S) m m') (g : α → β) :
    Agree P (fun _ => S) (g <$> m) (g <$> m') := by
  simp only [map_eq_pure_bind]
  exact h.bind fun _ => Agree.pure fun _ hs => hs

theorem Agree.read (r : Parser → α) (hm : ∀ p, m.run p = (r p, p)) :
    Agree P (fun _ s => P s) m m := by
  intro p hv hP
  rw [hm]
  exact ⟨rfl, .refl hv, hP⟩

theorem Agree.readScanner (r : Scanner → α) (hm : ∀ p, m.run p = (r p.scanner, p)) :
    Agree P (fun a s => P s ∧ r s = a) m m := by
  intro p hv hP
  rw [hm]
  exact ⟨rfl, .refl hv, hP, rfl⟩

theorem Agree.keepScanner (step : Parser → α × Parser) (hm : ∀ p, m.run p = step p)
    (hs : ∀ p, (step p).2.scanner = p.scanner) : Agree P (fun _ s => P s) m m := by
  intro p hv hP
  rw [hm, hs]
  exact ⟨rfl, .refl hv, hP⟩

end Rules

/-- The two steps agree from every scanner with credit `c` left, and keep it. -/
abbrev Keeps {α : Type} (B c : Nat) (m m' : ParserM α) : Prop :=
  Agree (Within B c) (fun _ => Within B c) m m'

theorem Keeps.optional {α β : Type} {B c : Nat} {m m' : ParserM α} {R : β → Scanner → Prop}
    {k k' : Option α → ParserM β} (h : Keeps B c m m') (b : Bool)
    (hk : ∀ x, Agree (Within B c) R (k x) (k' x)) :
    Agree (Within B c) R (if b = true then some <$> m >>= k else pure none >>= k)
      (if b = true then some <$> m' >>= k' else pure none >>= k') :=
  Agree.ite (fun _ => (h.map _).bind hk) fun _ => (Agree.pure fun _ hs => hs).bind hk

/-- `m` goes forward: from a valid scanner it ends at one that follows it. -/
def Forward {α : Type} (m : ParserM α) : Prop :=
  Agree (fun _ => True) (fun _ _ => True) m m

theorem Forward.agree {α : Type} {m : ParserM α} {S : Scanner → Prop} (h : Forward m)
    (hS : ∀ s t, S s → s.LeadsTo t → S t) : Agree S (fun _ => S) m m := by
  intro p hv hs
  obtain ⟨heq, hlt, -⟩ := h p hv trivial
  exact ⟨heq, hlt, hS _ _ hs hlt⟩

theorem Forward.within {α : Type} {m : ParserM α} {B c : Nat} (h : Forward m) :
    Keeps B c m m :=
  h.agree fun _ _ hs ht => hs.of_leadsTo ht

/-! ### Reading the current token -/

section Reads

variable {P : Scanner → Prop}

theorem get_agree : Agree P (fun q s => P s ∧ q.scanner = s) get get :=
  fun _ hv hP => ⟨rfl, .refl hv, hP, rfl⟩

theorem token_agree : Agree P (fun k s => P s ∧ s.token = k) token token :=
  Agree.readScanner (·.token) fun _ => rfl

theorem isToken_agree (k : TokenKind) :
    Agree P (fun b s => P s ∧ (s.token == k) = b) (isToken k) (isToken k) :=
  Agree.readScanner (·.token == k) fun _ => rfl

theorem isToken_bind {β : Type} {k : TokenKind} {R : β → Scanner → Prop}
    {f f' : Bool → ParserM β} (ht : Agree (fun s => P s ∧ s.token = k) R (f true) (f' true))
    (hf : Agree (fun s => P s ∧ s.token ≠ k) R (f false) (f' false)) :
    Agree P R (isToken k >>= f) (isToken k >>= f') :=
  (isToken_agree k).bind fun
    | true => ht.pre fun _ hs => ⟨hs.1, by simpa using hs.2⟩
    | false => hf.pre fun _ hs => ⟨hs.1, by simpa using hs.2⟩

theorem tokenPos_agree : Agree P (fun _ s => P s) tokenPos tokenPos :=
  Agree.read (·.scanner.tokenStart) fun _ => rfl

theorem tokenEnd_agree : Agree P (fun _ s => P s) tokenEnd tokenEnd :=
  Agree.read (·.scanner.pos) fun _ => rfl

theorem tokenValue_agree : Agree P (fun _ s => P s) tokenValue tokenValue :=
  Agree.read (·.scanner.value) fun _ => rfl

theorem lineBreakBefore_agree : Agree P (fun _ s => P s) lineBreakBefore lineBreakBefore :=
  Agree.read (·.scanner.lineBreakBefore) fun _ => rfl

theorem lastEnd_agree : Agree P (fun _ s => P s) lastEnd lastEnd :=
  Agree.read (·.prevEnd) fun _ => rfl

theorem isIdentifier_agree : Agree P (fun _ s => P s) isIdentifier isIdentifier :=
  Agree.read (fun p => p.scanner.token == .identifier || p.scanner.token.isContextualKeyword)
    fun _ => rfl

theorem isIdentifierOrKeyword_agree :
    Agree P (fun _ s => P s) isIdentifierOrKeyword isIdentifierOrKeyword :=
  Agree.read (fun p => p.scanner.token == .identifier || p.scanner.token.isAnyKeyword)
    fun _ => rfl

theorem spansLines_agree (start stop : Nat) :
    Agree P (fun _ s => P s) (spansLines start stop) (spansLines start stop) := by
  unfold spansLines
  refine get_agree.bind fun q => ?_
  split <;> exact Agree.pure fun _ h => h.1

theorem budget_agree : Agree P (fun _ s => P s) budget budget :=
  Agree.read (·.scanner.size + 2) fun _ => rfl

theorem errorAtToken_agree (msg : Message) :
    Agree P (fun _ s => P s) (errorAtToken msg) (errorAtToken msg) :=
  Agree.keepScanner _ (fun _ => rfl) fun p => by
    show (p.reportAtToken msg).scanner = p.scanner
    unfold reportAtToken reportAt
    split <;> rfl

theorem reportUnsupported_agree (what : String) :
    Agree P (fun _ s => P s) (reportUnsupported what) (reportUnsupported what) :=
  errorAtToken_agree _

theorem missingIdent_agree : Agree P (fun _ s => P s) missingIdent missingIdent := by
  unfold missingIdent
  exact tokenPos_agree.bind fun _ => Agree.pure fun _ h => h

theorem canEndStatement_agree : Agree P (fun _ s => P s) canEndStatement canEndStatement :=
  Agree.read (fun p => p.scanner.token == .semicolonToken || p.scanner.token == .closeBraceToken
    || p.scanner.token == .endOfFileToken || p.scanner.lineBreakBefore) fun _ => rfl

end Reads

/-! ### Consuming tokens -/

section Consuming

variable {B c : Nat}

theorem nextToken_forward : Forward nextToken :=
  fun _ hv _ => ⟨rfl, advance_leadsTo hv, trivial⟩

/-- Consuming a token other than the end of the file frees eight units. -/
theorem nextToken_consumes :
    Agree (fun s => Within B c s ∧ s.token ≠ .endOfFileToken) (fun _ => Within B (c + 8))
      nextToken nextToken := by
  intro p hv ⟨hP, hne⟩
  have h := advance_rest_lt hv hne
  refine ⟨rfl, advance_leadsTo hv, ?_⟩
  show 8 * (advance p).scanner.rest + (c + 8) ≤ B
  unfold Within at hP
  omega

theorem nextIs_forward (k : TokenKind) : Forward (nextIs k) :=
  nextToken_forward.bind fun _ => (isToken_agree k).post fun _ _ _ => trivial

theorem expect_forward (k : TokenKind) : Forward (expect k) := by
  unfold expect
  refine (isToken_agree k).bind fun b => Agree.ite (fun _ => ?_) fun _ => ?_
  · exact nextToken_forward.pre (fun _ _ => trivial) |>.bind fun _ => Agree.pure fun _ _ => trivial
  · exact (errorAtToken_agree _).bind fun _ => Agree.pure fun _ _ => trivial

/-- `expect k` at a token `k` consumes it. -/
theorem expect_consumes {k : TokenKind} (hk : k ≠ .endOfFileToken) :
    Agree (fun s => Within B c s ∧ s.token = k) (fun _ => Within B (c + 8)) (expect k)
      (expect k) := by
  unfold expect
  refine (isToken_agree k).bind fun b => Agree.ite (fun hb => ?_) fun hb => ?_
  · refine (nextToken_consumes.pre fun s hs => ⟨hs.1.1, by rw [hs.1.2]; exact hk⟩).bind
      fun _ => Agree.pure fun _ h => h
  · exact Agree.of_false fun s hs => hb (by rw [← hs.2, hs.1.2]; exact beq_self_eq_true k)

theorem expect_agree {k : TokenKind} (hk : k ≠ .endOfFileToken) (d : Nat) (hd : d ≤ 8) :
    Agree (fun s => Within B (c + if s.token = k then 0 else d) s) (fun _ => Within B (c + d))
      (expect k) (expect k) := by
  intro p hv hP
  by_cases hat : p.scanner.token = k
  · rw [if_pos hat] at hP
    obtain ⟨heq, hlt, hQ⟩ := expect_consumes (c := c) hk p hv ⟨by simpa using hP, hat⟩
    exact ⟨heq, hlt, hQ.mono (by omega)⟩
  · rw [if_neg hat] at hP
    obtain ⟨heq, hlt, -⟩ := expect_forward k p hv trivial
    exact ⟨heq, hlt, hP.of_leadsTo hlt⟩

theorem expect_bind {β : Type} {k : TokenKind} (hk : k ≠ .endOfFileToken)
    {f f' : Bool → ParserM β} (hf : ∀ b, Keeps B (c + 8) (f b) (f' b)) :
    Agree (fun s => Within B c s ∧ s.token = k) (fun _ => Within B c) (expect k >>= f)
      (expect k >>= f') :=
  (expect_consumes hk).bind fun b => (hf b).post fun _ _ hs => hs.mono (by omega)

/-- A step that opens with `expect k`: where it stands at `k` it needs no credit beyond the `c` it
ends with, and elsewhere `d` more; it ends with `c + d`. -/
def AgreeAt {α : Type} (B : Nat) (k : TokenKind) (d : Nat) (m m' : ParserM α) : Prop :=
  ∀ c, Agree (fun s => Within B (c + if s.token = k then 0 else d) s) (fun _ => Within B (c + d))
    m m'

theorem AgreeAt.at {α : Type} {k : TokenKind} {d : Nat} {m m' : ParserM α}
    (h : AgreeAt B k d m m') :
    Agree (fun s => Within B c s ∧ s.token = k) (fun _ => Within B (c + d)) m m' :=
  (h c).pre fun _ hs => by simpa [hs.2] using hs.1

theorem AgreeAt.within {α : Type} {k : TokenKind} {d : Nat} {m m' : ParserM α}
    (h : AgreeAt B k d m m') (hd : d ≤ c) : Keeps B c m m' :=
  (h (c - d)).mono (fun _ hs => hs.mono (by split <;> omega)) fun _ _ hs => hs.mono (by omega)

theorem accept_forward (k : TokenKind) : Forward (accept k) := by
  unfold accept
  refine (isToken_agree k).bind fun b => Agree.ite (fun _ => ?_) fun _ => ?_
  · exact nextToken_forward.pre (fun _ _ => trivial) |>.bind fun _ => Agree.pure fun _ _ => trivial
  · exact Agree.pure fun _ _ => trivial

/-- `accept k` keeps the credit, and frees eight units when it consumes `k`. -/
theorem accept_agree {k : TokenKind} (hk : k ≠ .endOfFileToken) :
    Agree (Within B c) (fun b s => Within B c s ∧ (b = true → Within B (c + 8) s)) (accept k)
      (accept k) := by
  unfold accept
  refine (isToken_agree k).bind fun b => Agree.ite (fun hb => ?_) fun _ => ?_
  · refine (nextToken_consumes.pre fun s hs => ⟨hs.1, ?_⟩).bind fun _ => ?_
    · intro heof
      rw [hb, heof] at hs
      exact hk (beq_iff_eq.1 hs.2).symm
    · exact Agree.pure fun _ h => ⟨h.mono (by omega), fun _ => h⟩
  · exact Agree.pure fun _ h => ⟨h.1, fun h' => absurd h' (by decide)⟩

theorem semicolon_forward : Forward semicolon := by
  unfold semicolon
  refine (accept_forward _).bind fun b => Agree.ite (fun _ => Agree.pure fun _ _ => trivial)
    fun _ => ?_
  refine canEndStatement_agree.bind fun e => Agree.ite (fun _ => Agree.pure fun _ _ => trivial)
    fun _ => ?_
  exact (expect_forward _).bind fun _ => Agree.pure fun _ _ => trivial

theorem identFromToken_forward : Forward identFromToken := by
  unfold identFromToken
  refine get_agree.bind fun q => ?_
  extract_lets s
  exact (nextToken_forward.pre fun _ _ => trivial).bind fun _ => Agree.pure fun _ _ => trivial

theorem identifier_forward : Forward identifier := by
  unfold identifier
  refine isIdentifier_agree.bind fun _ => Agree.ite (fun _ => identFromToken_forward) fun _ => ?_
  exact (errorAtToken_agree _).bind fun _ => missingIdent_agree

theorem identifierName_forward : Forward identifierName := by
  unfold identifierName
  refine isIdentifierOrKeyword_agree.bind fun _ =>
    Agree.ite (fun _ => identFromToken_forward) fun _ => ?_
  exact (errorAtToken_agree _).bind fun _ => missingIdent_agree

theorem literal_forward : Forward literal := by
  unfold literal
  refine get_agree.bind fun q => ?_
  extract_lets s
  exact (nextToken_forward.pre fun _ _ => trivial).bind fun _ => Agree.pure fun _ _ => trivial

theorem literal_consumes :
    Agree (fun s => Within B c s ∧ s.token ≠ .endOfFileToken) (fun _ => Within B (c + 8))
      literal literal := by
  unfold literal
  refine get_agree.bind fun q => ?_
  extract_lets s
  exact (nextToken_consumes.pre fun _ h => h.1).bind fun _ => Agree.pure fun _ h => h

theorem keywordNode_forward : Forward keywordNode := by
  unfold keywordNode
  refine tokenPos_agree.bind fun _ => token_agree.bind fun _ => ?_
  refine (nextToken_forward.pre fun _ _ => trivial).bind fun _ => ?_
  exact lastEnd_agree.bind fun _ => Agree.pure fun _ _ => trivial

end Consuming

/-! ### Rescans -/

theorem rescanGreater_forward : Forward rescanGreater :=
  fun _ hv _ => ⟨rfl, rescanGreater_leadsTo hv, trivial⟩

theorem rescanSlash_forward : Forward rescanSlash :=
  fun _ hv _ => ⟨rfl, rescanSlash_leadsTo hv, trivial⟩

theorem rescanTemplate_forward : Forward rescanTemplate :=
  fun _ hv _ => ⟨rfl, rescanTemplate_leadsTo hv, trivial⟩

/-! ### Speculation, context and nesting -/

section Combinators

variable {α : Type} {P : Scanner → Prop} {Q : α → Scanner → Prop} {m m' : ParserM α}

/-- A condition on the scanner that going back to a snapshot keeps: it reads neither the errors
nor the comments, which going back cuts to their number at the snapshot. -/
class RestoreStable (P : Scanner → Prop) : Prop where
  restore : ∀ s t : Scanner, P s → P (t.restore s)

instance (B c : Nat) : RestoreStable (Within B c) := ⟨fun _ _ h => h⟩

instance (B c d : Nat) (k : TokenKind) :
    RestoreStable fun s => Within B (c + if s.token = k then 0 else d) s :=
  ⟨fun _ _ h => h⟩

instance (k : TokenKind) : RestoreStable fun s => s.token = k := ⟨fun _ _ h => h⟩

instance (k : TokenKind) : RestoreStable fun s => s.token ≠ k := ⟨fun _ _ h => h⟩

instance (k : TokenKind) (b : Bool) : RestoreStable fun s => (s.token == k) = b :=
  ⟨fun _ _ h => h⟩

instance : RestoreStable fun _ => True := ⟨fun _ _ h => h⟩

instance {P R : Scanner → Prop} [RestoreStable P] [RestoreStable R] :
    RestoreStable fun s => P s ∧ R s :=
  ⟨fun s t h => ⟨RestoreStable.restore s t h.1, RestoreStable.restore s t h.2⟩⟩

/-- A scanner restored to a valid snapshot stands where the snapshot stood, at a valid token. -/
theorem leadsTo_restore {s : Scanner} (hv : s.Valid) (t : Scanner) : s.LeadsTo (t.restore s) :=
  ⟨⟨hv.tokenStart_le_pos, hv.tokenStart_lt_pos, hv.tokenStart_lt_size, hv.eofAtEnd⟩, rfl,
    Nat.le_refl _⟩

theorem lookAhead_run (m : ParserM α) (p : Parser) :
    (lookAhead m).run p =
      ((m.run p).1, { p with scanner := (m.run p).2.scanner.restore p.scanner
                             diagnostics := (m.run p).2.diagnostics.extract 0 p.diagnostics.size
                             depth := (m.run p).2.depth }) :=
  rfl

/-- A look-ahead ends where it started. The condition on the scanner must not read its errors and
comments, which going back cuts to their number at the start. -/
theorem lookAhead_agree [RestoreStable P] (h : Agree P Q m m') :
    Agree P (fun _ s => P s) (lookAhead m) (lookAhead m') := by
  intro p hv hP
  obtain ⟨heq, -, -⟩ := h p hv hP
  rw [lookAhead_run, lookAhead_run, heq]
  exact ⟨rfl, leadsTo_restore hv _, RestoreStable.restore _ _ hP⟩

theorem lookAhead_same [RestoreStable P] (m : ParserM α) :
    Agree P (fun _ s => P s) (lookAhead m) (lookAhead m) := by
  intro p hv hP
  rw [lookAhead_run]
  exact ⟨rfl, leadsTo_restore hv _, RestoreStable.restore _ _ hP⟩

theorem peekIs_agree [RestoreStable P] (k : TokenKind) :
    Agree P (fun _ s => P s) (peekIs k) (peekIs k) :=
  lookAhead_same _

theorem tryParse_run (m : ParserM (Option α)) (p : Parser) :
    (tryParse m).run p =
      match m.run p with
      | (some v, q) =>
        if (q.diagnostics.size == p.diagnostics.size) = true then (some v, q)
        else (none, { p with scanner := q.scanner.restore p.scanner
                             diagnostics := q.diagnostics.extract 0 p.diagnostics.size
                             depth := q.depth })
      | (none, q) => (none, { p with scanner := q.scanner.restore p.scanner
                                     diagnostics := q.diagnostics.extract 0 p.diagnostics.size
                                     depth := q.depth }) := by
  simp only [tryParse, StateT.run_bind, StateT.run_get, pure_bind]
  rcases m.run p with ⟨_ | v, q⟩
  · rfl
  · show StateT.run _ q = _
    by_cases hd : (q.diagnostics.size == p.diagnostics.size) = true
    · simp only [StateT.run_bind, StateT.run_get, pure_bind, hd, if_true]
      rfl
    · simp only [StateT.run_bind, StateT.run_get, pure_bind, hd]
      rfl

/-- A parse that is tried keeps what its step did when it succeeded, and else ends where it
started. -/
theorem tryParse_agree {m m' : ParserM (Option α)} {Q : Option α → Scanner → Prop}
    [RestoreStable P] (h : Agree P Q m m') :
    Agree P (fun r s => (r.isSome → Q r s) ∧ (r = none → P s)) (tryParse m) (tryParse m') := by
  intro p hv hP
  obtain ⟨heq, hlt, hQ⟩ := h p hv hP
  rw [tryParse_run, tryParse_run, ← heq]
  rcases hr : m.run p with ⟨_ | v, q⟩
  · exact ⟨rfl, leadsTo_restore hv _, fun h => absurd h (by simp), fun _ => RestoreStable.restore _ _ hP⟩
  · rw [hr] at hlt hQ
    dsimp only
    split
    · exact ⟨rfl, hlt, fun _ => hQ, fun h => absurd h (by simp)⟩
    · exact ⟨rfl, leadsTo_restore hv _, fun h => absurd h (by simp), fun _ => RestoreStable.restore _ _ hP⟩

theorem tryParse_keeps {B c : Nat} {m m' : ParserM (Option α)} (h : Keeps B c m m') :
    Keeps B c (tryParse m) (tryParse m') :=
  (tryParse_agree h).post fun r _ hs => by
    cases r
    · exact hs.2 rfl
    · exact hs.1 rfl

theorem withContext_agree {S : Scanner → Prop} (f : Context → Context)
    (h : Agree P (fun _ => S) m m') :
    Agree P (fun _ => S) (withContext f m) (withContext f m') := by
  unfold withContext
  refine get_agree.bind fun q => ?_
  refine (Agree.keepScanner _ (fun _ => rfl) fun _ => rfl).bind fun _ => ?_
  refine (h.pre fun _ hs => hs.1).bind fun r => ?_
  exact (Agree.keepScanner _ (fun _ => rfl) fun _ => rfl).bind fun _ => Agree.pure fun _ h => h

theorem allowIn_agree {S : Scanner → Prop} (h : Agree P (fun _ => S) m m') :
    Agree P (fun _ => S) (allowIn m) (allowIn m') :=
  withContext_agree _ h

theorem disallowIn_agree {S : Scanner → Prop} (h : Agree P (fun _ => S) m m') :
    Agree P (fun _ => S) (disallowIn m) (disallowIn m') :=
  withContext_agree _ h

/-- One level deeper, or the fallback at the limit: the depth is the same on both sides. -/
theorem guarded_agree {S : Scanner → Prop} {fb fb' : ParserM α}
    (hf : Agree P (fun _ => S) fb fb') (hm : Agree P (fun _ => S) m m') :
    Agree P (fun _ => S) (guarded fb m) (guarded fb' m') := by
  unfold guarded
  refine get_agree.bind fun q => Agree.ite (fun _ => ?_) fun _ => ?_
  · exact (errorAtToken_agree _).bind fun _ => hf.pre fun _ hs => hs.1
  · refine (Agree.keepScanner _ (fun _ => rfl) fun _ => rfl).bind fun _ => ?_
    refine (hm.pre fun _ hs => hs.1).bind fun r => ?_
    exact (Agree.keepScanner _ (fun _ => rfl) fun _ => rfl).bind fun _ => Agree.pure fun _ h => h

end Combinators

/-! ### Lists and skipping -/

section Lists

variable {B c : Nat} {e e' : ParserM Node}

theorem separated_loop_agree (sep : TokenKind) (he : Keeps B c e e') :
    ∀ (n : Nat) (acc : List Node),
      Keeps B c (separated.loop sep e n acc)
        (separated.loop sep e' n acc)
  | 0, _ => Agree.pure fun _ h => h
  | n + 1, acc => by
    unfold separated.loop
    refine (accept_forward sep).within.bind fun b => Agree.ite (fun _ => ?_) fun _ => ?_
    · exact he.bind fun x => separated_loop_agree sep he n (x :: acc)
    · exact Agree.pure fun _ h => h

theorem separated_agree (sep : TokenKind) (he : Keeps B c e e') :
    Keeps B c (separated sep e) (separated sep e') := by
  unfold separated
  exact budget_agree.bind fun n => separated_loop_agree sep he n []

theorem delimited_loop_agree (close : TokenKind)
    (he : Keeps B c e e') :
    ∀ (n : Nat) (acc : List Node) (trailing : Bool),
      Keeps B c (delimited.loop close e n acc trailing)
        (delimited.loop close e' n acc trailing)
  | 0, _, _ => Agree.pure fun _ h => h
  | n + 1, acc, trailing => by
    unfold delimited.loop
    refine (isToken_agree close).bind fun _ => (isToken_agree _).bind fun _ => ?_
    refine Agree.ite (fun _ => Agree.pure fun _ h => h.1.1) fun _ => ?_
    refine (tokenPos_agree.bind fun before => ?_).pre fun _ h => h.1.1
    refine he.bind fun x => (accept_forward _).within.bind fun b => Agree.ite (fun _ => ?_)
      fun _ => ?_
    · exact (isToken_agree close).bind fun t => (delimited_loop_agree close he n _ t).pre
        fun _ h => h.1
    · refine (isToken_agree close).bind fun t => ?_
      extract_lets jp
      have hjp : ∀ u, Keeps B c (jp u) (jp u) := fun _ =>
        Agree.pure fun _ h => h
      refine Agree.ite (fun _ => ?_) fun _ => (hjp ()).pre fun _ h => h.1
      refine ((expect_forward _).within.pre fun _ h => h.1).bind fun _ => ?_
      refine tokenPos_agree.bind fun now => Agree.ite (fun _ => ?_) fun _ => hjp ()
      exact nextToken_forward.within.bind fun u => hjp u

theorem delimited_agree (close : TokenKind) (he : Keeps B c e e') :
    Keeps B c (delimited close e) (delimited close e') := by
  unfold delimited
  exact budget_agree.bind fun n => delimited_loop_agree close he n [] false

theorem skipToStatementEnd_loop_forward :
    ∀ (n depth : Nat), Forward (skipToStatementEnd.loop n depth)
  | 0, _ => Agree.pure fun _ _ => trivial
  | n + 1, depth => by
    unfold skipToStatementEnd.loop
    refine token_agree.bind fun k => ?_
    split
    · exact Agree.pure fun _ _ => trivial
    · exact (nextToken_forward.pre fun _ _ => trivial).bind fun _ =>
        skipToStatementEnd_loop_forward n _
    · refine Agree.ite (fun _ => nextToken_forward.pre fun _ _ => trivial) fun _ => ?_
      exact (nextToken_forward.pre fun _ _ => trivial).bind fun _ =>
        skipToStatementEnd_loop_forward n _
    · refine (nextToken_forward.pre fun _ _ => trivial).bind fun _ => ?_
      exact Agree.ite (fun _ => skipToStatementEnd_loop_forward n _) fun _ =>
        Agree.pure fun _ _ => trivial
    · exact (nextToken_forward.pre fun _ _ => trivial).bind fun _ =>
        skipToStatementEnd_loop_forward n _

theorem skipToStatementEnd_forward : Forward skipToStatementEnd := by
  unfold skipToStatementEnd
  exact budget_agree.bind fun n => skipToStatementEnd_loop_forward n 0

theorem unsupportedDeclaration_forward (what : String) : Forward (unsupportedDeclaration what) := by
  unfold unsupportedDeclaration
  refine tokenPos_agree.bind fun _ => (reportUnsupported_agree _).bind fun _ => ?_
  exact skipToStatementEnd_forward.bind fun _ => lastEnd_agree.bind fun _ =>
    Agree.pure fun _ _ => trivial

end Lists

end Parser

open ParamNarrow.Parser

/-- The entry points of `g` and `g'` agree where `B` units of fuel pay for the call: eight for
each byte ahead, and one more than the entry's rank. The ranks order the calls that read no
token in between: a statement calls an expression, an expression an assignment, then binary and
unary expressions; a type calls a type operator; a block calls statements unless it stands at
its `{`, and a `new` expression is entered only at `new`. -/
structure Grammar.AgreeBelow (g g' : Grammar) (B : Nat) : Prop where
  statement : ∀ c, 6 ≤ c → Keeps B c g.statement g'.statement
  block : ∀ c, 1 ≤ c →
    Agree (fun s => Within B (c + if s.token = .openBraceToken then 0 else 6) s)
      (fun _ => Within B c) g.block g'.block
  expression : ∀ c, 5 ≤ c → Keeps B c g.expression g'.expression
  assignment : ∀ c, 4 ≤ c → Keeps B c g.assignment g'.assignment
  binary : ∀ c prec, 3 ≤ c →
    Keeps B c (g.binary prec) (g'.binary prec)
  unary : ∀ c, 2 ≤ c → Keeps B c g.unary g'.unary
  newExpression : ∀ c, 1 ≤ c →
    Agree (fun s => Within B c s ∧ s.token = .newKeyword) (fun _ => Within B c)
      g.newExpression g'.newExpression
  type : ∀ c, 2 ≤ c → Keeps B c g.type g'.type
  typeOperator : ∀ c, 1 ≤ c →
    Keeps B c g.typeOperator g'.typeOperator
  bindingName : ∀ c, 1 ≤ c →
    Keeps B c g.bindingName g'.bindingName

theorem Grammar.AgreeBelow.block_at {g g' : Grammar} {B c : Nat} (h : g.AgreeBelow g' B)
    (hc : 1 ≤ c) :
    Agree (fun s => Within B c s ∧ s.token = .openBraceToken) (fun _ => Within B c) g.block
      g'.block :=
  (h.block c hc).pre fun _ hs => by simpa [hs.2] using hs.1

theorem Grammar.AgreeBelow.block_after {g g' : Grammar} {B c : Nat} (h : g.AgreeBelow g' B)
    (hc : 1 ≤ c) : Agree (Within B (c + 6)) (fun _ => Within B c) g.block g'.block :=
  (h.block c hc).pre fun _ hs => hs.mono (by split <;> omega)

end ParamNarrow
