import ParamNarrow.Proofs.Tree.Shape
import ParamNarrow.Proofs.ParserProgress
import ParamNarrow.Proofs.ScannerSnapshots
/-!
# Steps of the parser, specified

The parser's state is `Sane` after every step: its scanner stands at a valid token inside the
text, the last token consumed ends before the current one starts, and an offset of a last
diagnostic is recorded only beside a diagnostic. A step from a sane state ends in one that
`Follows` it: the same text, positions no earlier and no fewer diagnostics.

`Runs p m Q` says that `m` run from `p` ends sane, following `p`, and that `Q` holds of its result
and end state where that state is clean, with no diagnostic. Only clean parses are promised
anything: a diagnostic, once reported, stays (`Follows`), so a clean end state was clean all
along. `Runs.bind` follows a `do` block step by step; each step hands what it promises to the
steps after it as an assumption of their promise, so the facts of a rule's steps are all at hand
where it builds its node.

Nodes read between two states (`Read`, `ReadAll`) are well formed, start at or after the token
the first state stands at and end by the end of the last token the second consumed.
-/

namespace ParamNarrow

/-! ### Staying inside the text -/

namespace Scanner

open Text

theorem TokenStep.pos_le_size {s t : Scanner} (h : s.TokenStep t) (hs : s.pos ≤ s.size)
    (hnone : s.charAt? s.pos = none → t.pos = s.pos) : t.pos ≤ t.size := by
  have hsize : t.size = s.size := by rw [size, size, h.readsOn.text_eq]
  rw [hsize]
  cases hc : s.charAt? s.pos with
  | none => rw [hnone hc]; exact hs
  | some c => exact (h.boundary (isBoundary_of_charAt? hc).1).le_size

theorem byteIs_succ_le {s : Scanner} {p : Nat} {c : Char} (h : s.byteIs p c = true)
    (hc : c.toNat < 128) : p + 1 ≤ s.size :=
  (isBoundary_succ_of_byteIs h hc).le_size

theorem scanLoop_pos_le : ∀ (n : Nat) (s : Scanner), s.pos ≤ s.size →
    (scanLoop n s).pos ≤ (scanLoop n s).size
  | 0, _, h => h
  | n + 1, s, h => by
    rw [scanLoop]
    split
    · exact h
    · rename_i c hc
      have hnext : s.pos + c.utf8Size ≤ s.size := (isBoundary_of_charAt? hc).2.le_size
      split
      · apply scanLoop_pos_le
        have hm := markLineEnd_readsOn { s with tokenStart := s.pos }
        show s.pos + c.utf8Size ≤ (markLineEnd { s with tokenStart := s.pos }).text.utf8ByteSize
        rw [hm.text_eq]
        exact hnext
      · split
        · exact scanLoop_pos_le n _ hnext
        · split
          · rename_i hline
            obtain rfl : c = '/' := by simpa using (Bool.and_eq_true_iff.1 hline).1
            apply scanLoop_pos_le
            have hr := (skipLineComment_advances (s := { s with tokenStart := s.pos }) hc).1
            rw [skipLineComment_pos, size, hr.text_eq]
            exact findByteFrom_le_size _ _ _
          · split
            · apply scanLoop_pos_le
              have hr := (skipBlockComment_advances (s := { s with tokenStart := s.pos })
                (Text.charAt?_lt hc)).1
              have hsize : (skipBlockComment { s with tokenStart := s.pos }).size = s.size := by
                rw [size, hr.text_eq]
                rfl
              rw [skipBlockComment_pos, hsize]
              cases hclose : findCommentClose s.text (s.pos + 2) with
              | none => exact Nat.le_refl _
              | some close =>
                exact byteIs_succ_le (s := s) (findCommentClose_spec hclose).2 (by decide)
            · exact (scanAt_step hc).pos_le_size h fun hnone =>
                (Option.some_ne_none c (hc.symm.trans hnone)).elim

theorem scan_pos_le {s : Scanner} (h : s.pos ≤ s.size) : s.scan.pos ≤ s.scan.size :=
  scanLoop_pos_le _ _ h

theorem rescanGreater_pos_le {s : Scanner} (h : s.pos ≤ s.size) :
    s.rescanGreater.pos ≤ s.rescanGreater.size := by
  unfold rescanGreater
  split
  · exact h
  · dsimp only
    split
    · rename_i h3
      simp only [Bool.and_eq_true] at h3
      exact byteIs_succ_le h3.2 (by decide)
    split
    · rename_i h2
      simp only [Bool.and_eq_true] at h2
      exact byteIs_succ_le h2.2 (by decide)
    split
    · rename_i h2
      simp only [Bool.and_eq_true] at h2
      exact byteIs_succ_le h2.2 (by decide)
    split
    · exact byteIs_succ_le ‹_› (by decide)
    split
    · exact byteIs_succ_le ‹_› (by decide)
    · exact h

theorem regexBody_pos_of_none (start : Nat) (n : Nat) (inClass : Bool) {s : Scanner}
    (h : s.charAt? s.pos = none) : (regexBody start n inClass s).pos = s.pos := by
  cases n with
  | zero => rfl
  | succ n =>
    unfold regexBody
    split
    · rfl
    · rename_i c hc
      exact nomatch h.symm.trans hc

theorem skipIdentifierParts_pos_of_none (n : Nat) {s : Scanner} (h : s.charAt? s.pos = none) :
    (s.skipIdentifierParts n).pos = s.pos := by
  cases n with
  | zero => rfl
  | succ n =>
    unfold skipIdentifierParts
    split
    · rename_i c hc
      exact nomatch h.symm.trans hc
    · rfl

theorem templateBody_pos_of_none (fromBacktick : Bool) (start n : Nat) {s : Scanner}
    (h : s.charAt? s.pos = none) : (templateBody fromBacktick start n s).pos = s.pos := by
  cases n with
  | zero => rfl
  | succ n =>
    simp only [templateBody, h]
    rfl

theorem rescanSlash_pos_le {s : Scanner} (hv : s.Valid) (h : s.pos ≤ s.size) :
    s.rescanSlash.pos ≤ s.rescanSlash.size := by
  unfold rescanSlash
  split
  · exact h
  · rename_i hslash
    have hne : s.token ≠ .endOfFileToken :=
      token_ne_of_test (f := fun k => k != .slashToken && k != .slashEqualsToken) (by decide)
        hslash
    have hstart : s.tokenStart + 1 ≤ s.size := hv.tokenStart_lt_size hne
    dsimp only
    generalize hr : regexBody s.tokenStart (s.size + 1) false { s with pos := s.tokenStart + 1 } = r
    have hregex : r.pos ≤ r.size := hr ▸
      (regexBody_step _ _ _ _).pos_le_size hstart (regexBody_pos_of_none _ _ _)
    exact (skipIdentifierParts_step r _).pos_le_size hregex (skipIdentifierParts_pos_of_none _)

theorem rescanTemplate_pos_le {s : Scanner} (hv : s.Valid) (h : s.pos ≤ s.size) :
    s.rescanTemplate.pos ≤ s.rescanTemplate.size := by
  unfold rescanTemplate
  split
  · exact h
  · rename_i hbrace
    have hne : s.token ≠ .endOfFileToken :=
      token_ne_of_test (f := fun k => k != .closeBraceToken) (by decide) hbrace
    have hstart : s.tokenStart + 1 ≤ s.size := hv.tokenStart_lt_size hne
    exact (scanTemplate_step _ false).pos_le_size hstart (templateBody_pos_of_none _ _ _)

end Scanner

namespace Parser

open Scanner

/-! ### Sane states and what follows them -/

/-- A state the parser leaves after every step: a valid token inside the text, a scanner reached
from a fresh one over the text by the scanner's moves, the last token consumed ending at or before
the current one starts, and no offset of a last diagnostic without a diagnostic. -/
structure Sane (p : Parser) : Prop where
  valid : p.scanner.Valid
  pos_le : p.scanner.pos ≤ p.scanner.size
  prevEnd_le : p.prevEnd ≤ p.scanner.tokenStart
  lastError : p.diagnostics.size = 0 → p.lastErrorPos = none
  reached : Relation.ReflTransGen Move (Scanner.new p.scanner.text) p.scanner

/-- `q` follows `p`: the same text, a scanner reached from that of `p` by moves, tokens no earlier,
the last token consumed no earlier and ending at or before the token `q` stands at, the
diagnostics of `p` with more after them, and the same nesting depth. -/
structure Follows (p q : Parser) : Prop where
  text_eq : q.scanner.text = p.scanner.text
  moves : Relation.ReflTransGen Move p.scanner q.scanner
  tokenStart_le : p.scanner.tokenStart ≤ q.scanner.tokenStart
  prevEnd_le : p.prevEnd ≤ q.prevEnd
  prevEnd_le_tokenStart : p.prevEnd ≤ q.scanner.tokenStart
  diagnostics_prefix : p.diagnostics.toList <+: q.diagnostics.toList
  depth_eq : q.depth = p.depth

theorem Follows.refl {p : Parser} (hp : Sane p) : Follows p p :=
  ⟨rfl, .refl, Nat.le_refl _, Nat.le_refl _, hp.prevEnd_le, List.prefix_refl _, rfl⟩

theorem Follows.trans {p q r : Parser} (h : Follows p q) (h' : Follows q r) : Follows p r :=
  ⟨h'.text_eq.trans h.text_eq, h.moves.trans h'.moves, Nat.le_trans h.tokenStart_le h'.tokenStart_le,
    Nat.le_trans h.prevEnd_le h'.prevEnd_le,
    Nat.le_trans h.prevEnd_le_tokenStart h'.tokenStart_le,
    h.diagnostics_prefix.trans h'.diagnostics_prefix, h'.depth_eq.trans h.depth_eq⟩

theorem Follows.size_eq {p q : Parser} (h : Follows p q) : q.scanner.size = p.scanner.size :=
  congrArg String.utf8ByteSize h.text_eq

theorem Follows.diagnostics_le {p q : Parser} (h : Follows p q) :
    p.diagnostics.size ≤ q.diagnostics.size := by
  simpa only [Array.length_toList] using h.diagnostics_prefix.length_le

theorem Follows.deeper {p q : Parser} (h : Follows { p with depth := p.depth + 1 } q) :
    Follows p { q with depth := q.depth - 1 } :=
  ⟨h.text_eq, h.moves, h.tokenStart_le, h.prevEnd_le, h.prevEnd_le_tokenStart,
    h.diagnostics_prefix, by simp [h.depth_eq]⟩

/-- Going back from a state that follows a sane one gives the sane one: the scanner's lists only
grew since, as did the diagnostics, and the depth is the same. -/
theorem Follows.rewind_eq {p q : Parser} (hp : Sane p) (h : Follows p q) :
    { p with scanner := q.scanner.restore p.scanner
             diagnostics := q.diagnostics.extract 0 p.diagnostics.size
             depth := q.depth } = p := by
  have hkeeps := (keeps_of_moves (settled_of_moves hp.reached) h.moves).1
  rw [restore_of_keeps hkeeps, extract_prefix_eq h.diagnostics_prefix, h.depth_eq]

/-- A state with no diagnostic. -/
def Clean (p : Parser) : Prop :=
  p.diagnostics.size = 0

theorem Clean.back {p q : Parser} (h : Follows p q) (hq : Clean q) : Clean p := by
  have := h.diagnostics_le
  unfold Clean at *
  omega

/-! ### Runs and specifications -/

section Runs

variable {α β : Type} {p : Parser} {m : ParserM α} {f : α → ParserM β} {Q Q' : α → Parser → Prop}
  {R : β → Parser → Prop}

/-- `m` run from `p` ends in a sane state that follows `p`, and, where that state is clean, `Q`
holds of the result and the state. -/
def Runs (p : Parser) (m : ParserM α) (Q : α → Parser → Prop) : Prop :=
  Sane (m.run p).2 ∧ Follows p (m.run p).2 ∧ (Clean (m.run p).2 → Q (m.run p).1 (m.run p).2)

/-- `m` runs from every sane state, with `Q` relating that state, the result and the end state. -/
def Spec (m : ParserM α) (Q : Parser → α → Parser → Prop) : Prop :=
  ∀ p, Sane p → Runs p m (Q p)

theorem Runs.pure {x : α} (hp : Sane p) (h : Clean p → Q x p) : Runs p (pure x) Q :=
  ⟨hp, .refl hp, h⟩

/-- A step, then the rest of the block: the rest may assume what the step promises. -/
theorem Runs.bind (hm : Runs p m Q)
    (hf : ∀ a q, Sane q → Follows p q → Runs q (f a) fun b r => Q a q → R b r) :
    Runs p (m >>= f) R := by
  obtain ⟨hs, hfo, hq⟩ := hm
  obtain ⟨hs', hfo', hr⟩ := hf _ _ hs hfo
  exact ⟨hs', hfo.trans hfo', fun hc => hr hc (hq (hc.back hfo'))⟩

theorem Runs.mono (h : Runs p m Q) (hQ : ∀ a q, Q a q → Q' a q) : Runs p m Q' :=
  ⟨h.1, h.2.1, fun hc => hQ _ _ (h.2.2 hc)⟩

theorem Runs.and (h₁ : Runs p m Q) (h₂ : Runs p m Q') : Runs p m fun a q => Q a q ∧ Q' a q :=
  ⟨h₁.1, h₁.2.1, fun hc => ⟨h₁.2.2 hc, h₂.2.2 hc⟩⟩

theorem Runs.map {g : α → β} {R : β → Parser → Prop} (h : Runs p m fun a q => R (g a) q) :
    Runs p (g <$> m) R :=
  h

theorem Runs.of_dirty (h : Runs p m Q) (hd : ∀ a q, Q a q → False) : Runs p m Q' :=
  h.mono fun a q hq => (hd a q hq).elim

/-! Reads of the state, taken as the values they read. They are stated through
`runs_bind_read` rather than by `rfl`, so that `simp` rewrites with them instead of changing the
goal up to unfolding, which the kernel would have to check again against the whole rule. -/

/-- A step that reads the state and leaves it as it is: the rest runs on the value read. -/
theorem runs_bind_read {m : ParserM β} {x : β} (hm : m.run p = (x, p)) {f : β → ParserM α}
    {R : α → Parser → Prop} : Runs p (m >>= f) R = Runs p (f x) R := by
  have hrun : (m >>= f).run p = (f x).run p := by
    rw [StateT.run_bind, hm]
    rfl
  unfold Runs
  rw [hrun]

theorem Runs.of_step {m : ParserM β} {x : β} {q : Parser} (hm : m.run p = (x, q)) (hf : Follows p q)
    {f : β → ParserM α} {R : α → Parser → Prop} (h : Runs q (f x) R) : Runs p (m >>= f) R := by
  have hrun : (m >>= f).run p = (f x).run q := by
    rw [StateT.run_bind, hm]
    rfl
  unfold Runs at h ⊢
  rw [hrun]
  exact ⟨h.1, hf.trans h.2.1, h.2.2⟩

@[simp] theorem runs_get {f : Parser → ParserM β} :
    Runs p (get >>= f) R = Runs p (f p) R :=
  runs_bind_read rfl

@[simp] theorem runs_token {f : TokenKind → ParserM β} :
    Runs p (token >>= f) R = Runs p (f p.scanner.token) R :=
  runs_bind_read rfl

@[simp] theorem runs_isToken {k : TokenKind} {f : Bool → ParserM β} :
    Runs p (isToken k >>= f) R = Runs p (f (p.scanner.token == k)) R :=
  runs_bind_read rfl

@[simp] theorem runs_tokenPos {f : Nat → ParserM β} :
    Runs p (tokenPos >>= f) R = Runs p (f p.scanner.tokenStart) R :=
  runs_bind_read rfl

@[simp] theorem runs_tokenEnd {f : Nat → ParserM β} :
    Runs p (tokenEnd >>= f) R = Runs p (f p.scanner.pos) R :=
  runs_bind_read rfl

@[simp] theorem runs_tokenValue {f : String → ParserM β} :
    Runs p (tokenValue >>= f) R = Runs p (f p.scanner.value) R :=
  runs_bind_read rfl

@[simp] theorem runs_lineBreakBefore {f : Bool → ParserM β} :
    Runs p (lineBreakBefore >>= f) R = Runs p (f p.scanner.lineBreakBefore) R :=
  runs_bind_read rfl

@[simp] theorem runs_lastEnd {f : Nat → ParserM β} :
    Runs p (lastEnd >>= f) R = Runs p (f p.prevEnd) R :=
  runs_bind_read rfl

@[simp] theorem runs_budget {f : Nat → ParserM β} :
    Runs p (budget >>= f) R = Runs p (f (p.scanner.size + 2)) R :=
  runs_bind_read rfl

@[simp] theorem runs_isIdentifier {f : Bool → ParserM β} :
    Runs p (isIdentifier >>= f) R =
      Runs p (f (p.scanner.token == .identifier || p.scanner.token.isContextualKeyword)) R :=
  runs_bind_read rfl

@[simp] theorem runs_isIdentifierOrKeyword {f : Bool → ParserM β} :
    Runs p (isIdentifierOrKeyword >>= f) R =
      Runs p (f (p.scanner.token == .identifier || p.scanner.token.isAnyKeyword)) R :=
  runs_bind_read rfl

@[simp] theorem runs_canEndStatement {f : Bool → ParserM β} :
    Runs p (canEndStatement >>= f) R =
      Runs p (f (p.scanner.token == .semicolonToken || p.scanner.token == .closeBraceToken
        || p.scanner.token == .endOfFileToken || p.scanner.lineBreakBefore)) R :=
  runs_bind_read rfl

@[simp] theorem runs_pure_bind {x : α} {f : α → ParserM β} :
    Runs p (pure x >>= f) R = Runs p (f x) R :=
  runs_bind_read rfl

end Runs

/-- The node `n` was read by a step from `p` to `q`: it starts at or after the token `p` stood
at and ends by the end of the last token `q` consumed. -/
abbrev Reads (p : Parser) (n : Node) (q : Parser) : Prop :=
  Node.Read p.scanner.tokenStart n q.prevEnd

/-- The nodes `l` were read by a step from `p` to `q`. -/
abbrev ReadsAll (p : Parser) (l : List Node) (q : Parser) : Prop :=
  Node.ReadAll p.scanner.tokenStart l q.prevEnd

/-! ### Moving on -/

section Moving

variable {p : Parser}

@[simp] theorem reportAt_scanner (start length : Nat) (msg : Message) :
    (p.reportAt start length msg).scanner = p.scanner := by
  unfold reportAt
  split <;> rfl

@[simp] theorem reportAt_prevEnd (start length : Nat) (msg : Message) :
    (p.reportAt start length msg).prevEnd = p.prevEnd := by
  unfold reportAt
  split <;> rfl

theorem reached_tail {s t : Scanner} (hs : Relation.ReflTransGen Move (Scanner.new s.text) s)
    (hm : Move s t) (ht : t.text = s.text) : Relation.ReflTransGen Move (Scanner.new t.text) t := by
  rw [ht]
  exact hs.tail hm

theorem reportAt_moves (hp : Sane p) (start length : Nat) (msg : Message) :
    Sane (p.reportAt start length msg) ∧ Follows p (p.reportAt start length msg) ∧
      ¬Clean (p.reportAt start length msg) := by
  unfold reportAt
  split
  · rename_i hlast
    refine ⟨hp, .refl hp, fun hc => ?_⟩
    rw [hp.lastError hc] at hlast
    simp at hlast
  · refine ⟨⟨hp.valid, hp.pos_le, hp.prevEnd_le, fun h => ?_, hp.reached⟩,
      ⟨rfl, .refl, Nat.le_refl _, Nat.le_refl _, hp.prevEnd_le, ?_, rfl⟩, fun h => ?_⟩
    · simp at h
    · simp
    · simp [Clean] at h

/-- Reading past the current token from a sane state, with the last token consumed kept or moved
up to where the current one ends. -/
theorem scan_moves {q : Parser} (hp : Sane p) (hs : q.scanner = p.scanner.scan)
    (he₁ : p.prevEnd ≤ q.prevEnd) (he₂ : q.prevEnd ≤ p.scanner.pos)
    (hd : q.diagnostics = p.diagnostics) (hl : q.lastErrorPos = p.lastErrorPos)
    (hdep : q.depth = p.depth) : Sane q ∧ Follows p q := by
  obtain ⟨hscan, htext, hle⟩ := scan_valid p.scanner hp.valid.eofAtEnd
  have hts := hp.valid.tokenStart_le_pos
  have hpe := hp.prevEnd_le
  rw [← hs] at hscan htext hle
  refine ⟨⟨hscan, hs ▸ scan_pos_le hp.pos_le, Nat.le_trans he₂ hle, hd ▸ hl ▸ hp.lastError,
      reached_tail hp.reached (hs ▸ .scan _) htext⟩,
    ⟨htext, .single (hs ▸ .scan _), by omega, he₁, by omega, hd ▸ List.prefix_refl _, hdep⟩⟩

theorem skipInvalid_moves : ∀ (n : Nat) (p : Parser), Sane p →
    Sane (skipInvalid n p) ∧ Follows p (skipInvalid n p) ∧ (skipInvalid n p).prevEnd = p.prevEnd
  | 0, p, hp => ⟨hp, .refl hp, rfl⟩
  | n + 1, p, hp => by
    unfold skipInvalid
    split
    · obtain ⟨hr, hfr, -⟩ := reportAt_moves hp p.scanner.tokenStart
        (p.scanner.pos - p.scanner.tokenStart) .invalidCharacter
      have hre : (p.reportAtToken .invalidCharacter).prevEnd = p.prevEnd := by simp [reportAtToken]
      have hpe := hp.prevEnd_le
      have hts := hp.valid.tokenStart_le_pos
      obtain ⟨hq, hpq⟩ := scan_moves (q := { p.reportAtToken .invalidCharacter with
          scanner := p.scanner.scan }) hr (by simp) (Nat.le_refl _)
        (by simp [reportAtToken]; omega) rfl rfl rfl
      obtain ⟨hs', hf', he'⟩ := skipInvalid_moves n _ hq
      exact ⟨hs', (hfr.trans hpq).trans hf', he'.trans hre⟩
    · exact ⟨hp, .refl hp, rfl⟩

theorem advance_moves (hp : Sane p) :
    Sane (advance p) ∧ Follows p (advance p) ∧ (advance p).prevEnd = p.scanner.pos := by
  obtain ⟨hq, hpq⟩ := scan_moves (q := { p with prevEnd := p.scanner.pos, scanner := p.scanner.scan })
    hp rfl (hp.prevEnd_le.trans hp.valid.tokenStart_le_pos) (Nat.le_refl _) rfl rfl rfl
  obtain ⟨hs', hf', he'⟩ := skipInvalid_moves (p.scanner.scan.size + 1) _ hq
  exact ⟨hs', hpq.trans hf', he'⟩

theorem skipInvalid_scanner : ∀ (n : Nat) {p q : Parser}, p.scanner = q.scanner →
    (skipInvalid n p).scanner = (skipInvalid n q).scanner
  | 0, _, _, h => h
  | n + 1, p, q, h => by
    unfold skipInvalid
    rw [h]
    split
    · exact skipInvalid_scanner n rfl
    · exact h

theorem advance_scanner {p q : Parser} (h : p.scanner = q.scanner) :
    (advance p).scanner = (advance q).scanner := by
  unfold advance
  dsimp only
  rw [h]
  exact skipInvalid_scanner _ rfl

theorem moves_of_scanner {t : Scanner} (hp : Sane p) (hm : Move p.scanner t) (hv : t.Valid)
    (hpos : t.pos ≤ t.size) (htext : t.text = p.scanner.text)
    (hts : t.tokenStart = p.scanner.tokenStart) :
    Sane { p with scanner := t } ∧ Follows p { p with scanner := t } :=
  ⟨⟨hv, hpos, hts ▸ hp.prevEnd_le, hp.lastError, reached_tail hp.reached hm htext⟩,
    ⟨htext, .single hm, Nat.le_of_eq hts.symm, Nat.le_refl _, hts ▸ hp.prevEnd_le,
      List.prefix_refl _, rfl⟩⟩

theorem sane_of_same {q : Parser} (hp : Sane p) (hs : q.scanner = p.scanner)
    (hpe : q.prevEnd = p.prevEnd) (hd : q.diagnostics = p.diagnostics)
    (hl : q.lastErrorPos = p.lastErrorPos) : Sane q where
  valid := hs ▸ hp.valid
  pos_le := hs ▸ hp.pos_le
  prevEnd_le := hs ▸ hpe ▸ hp.prevEnd_le
  lastError := hd ▸ hl ▸ hp.lastError
  reached := hs ▸ hp.reached

theorem moves_of_same {q : Parser} (hp : Sane p) (hs : q.scanner = p.scanner)
    (hpe : q.prevEnd = p.prevEnd) (hd : q.diagnostics = p.diagnostics)
    (hl : q.lastErrorPos = p.lastErrorPos) (hdep : q.depth = p.depth) : Sane q ∧ Follows p q :=
  ⟨sane_of_same hp hs hpe hd hl,
    { text_eq := by rw [hs]
      moves := hs ▸ .refl
      tokenStart_le := hs ▸ Nat.le_refl _
      prevEnd_le := hpe ▸ Nat.le_refl _
      prevEnd_le_tokenStart := hs ▸ hp.prevEnd_le
      diagnostics_prefix := hd ▸ List.prefix_refl _
      depth_eq := hdep }⟩

end Moving

/-! ### The steps of the cursor -/

section Cursor

theorem nextToken_spec : Spec nextToken fun p _ q =>
    q.prevEnd = p.scanner.pos ∧
      (p.scanner.token ≠ .endOfFileToken → p.scanner.tokenStart < q.prevEnd) := by
  intro p hp
  obtain ⟨hs, hf, he⟩ := advance_moves hp
  exact ⟨hs, hf, fun _ => ⟨he, fun hne => he ▸ hp.valid.tokenStart_lt_pos hne⟩⟩

theorem nextToken_advance : Spec nextToken fun p _ q => q = advance p := by
  intro p hp
  obtain ⟨hs, hf, -⟩ := advance_moves hp
  exact ⟨hs, hf, fun _ => rfl⟩

theorem errorAtToken_spec (msg : Message) : Spec (errorAtToken msg) fun _ _ _ => False := by
  intro p hp
  obtain ⟨hs, hf, hd⟩ :=
    reportAt_moves hp p.scanner.tokenStart (p.scanner.pos - p.scanner.tokenStart) msg
  exact ⟨hs, hf, hd⟩

theorem reportUnsupported_spec (what : String) :
    Spec (reportUnsupported what) fun _ _ _ => False :=
  errorAtToken_spec _

theorem expect_spec {k : TokenKind} (hk : k ≠ .endOfFileToken) :
    Spec (expect k) fun p _ q =>
      p.scanner.token = k ∧ q.prevEnd = p.scanner.pos ∧ p.scanner.tokenStart < q.prevEnd := by
  intro p hp
  unfold expect
  simp only [runs_isToken]
  split
  · rename_i hat
    have htok : p.scanner.token = k := by simpa using hat
    refine (nextToken_spec p hp).bind fun _ q hq _ => Runs.pure hq fun _ ⟨he, hadv⟩ => ?_
    exact ⟨htok, he, hadv (htok ▸ hk)⟩
  · exact (errorAtToken_spec _ p hp).bind fun _ q hq _ => Runs.pure hq fun _ h => h.elim

theorem accept_spec {k : TokenKind} (hk : k ≠ .endOfFileToken) :
    Spec (accept k) fun p b q =>
      b = true → p.scanner.token = k ∧ q.prevEnd = p.scanner.pos ∧
        p.scanner.tokenStart < q.prevEnd := by
  intro p hp
  unfold accept
  simp only [runs_isToken]
  split
  · rename_i hat
    have htok : p.scanner.token = k := by simpa using hat
    refine (nextToken_spec p hp).bind fun _ q hq _ => Runs.pure hq fun _ ⟨he, hadv⟩ _ => ?_
    exact ⟨htok, he, hadv (htok ▸ hk)⟩
  · exact Runs.pure hp fun _ h => absurd h (by decide)

theorem semicolon_spec : Spec semicolon fun _ _ _ => True := by
  intro p hp
  unfold semicolon
  refine (accept_spec (by decide) p hp).bind fun b q hq _ => ?_
  split
  · exact Runs.pure hq fun _ _ => trivial
  · simp only [runs_canEndStatement]
    split
    · exact Runs.pure hq fun _ _ => trivial
    · exact (expect_spec (by decide) q hq).bind fun _ r hr _ => Runs.pure hr fun _ _ _ => trivial

theorem missingIdent_spec : Spec missingIdent fun _ _ _ => True :=
  fun _ hp => ⟨hp, .refl hp, fun _ => trivial⟩

theorem identFromToken_spec :
    Spec identFromToken fun p r q => p.scanner.token ≠ .endOfFileToken → Reads p r q := by
  intro p hp
  unfold identFromToken
  simp only [runs_get]
  refine (nextToken_spec p hp).bind fun _ q hq _ => Runs.pure hq fun _ ⟨he, hadv⟩ hne => ?_
  exact Node.Read.leaf rfl trivial trivial (Nat.le_refl _) (hp.valid.tokenStart_lt_pos hne)
    (Nat.le_of_eq he.symm)

theorem ne_eof_of_identifier {k : TokenKind} (h : (k == .identifier || k.isContextualKeyword) = true) :
    k ≠ .endOfFileToken := by
  rintro rfl
  exact absurd h (by decide)

theorem ne_eof_of_identifierOrKeyword {k : TokenKind}
    (h : (k == .identifier || k.isAnyKeyword) = true) : k ≠ .endOfFileToken := by
  rintro rfl
  exact absurd h (by decide)

theorem identifier_spec : Spec identifier Reads := by
  intro p hp
  unfold identifier
  simp only [runs_isIdentifier]
  split
  · rename_i hid
    exact (identFromToken_spec p hp).mono fun _ _ h => h (ne_eof_of_identifier hid)
  · exact (errorAtToken_spec _ p hp).bind fun _ q hq _ =>
      (missingIdent_spec q hq).mono fun _ _ _ h => h.elim

theorem identifierName_spec : Spec identifierName Reads := by
  intro p hp
  unfold identifierName
  simp only [runs_isIdentifierOrKeyword]
  split
  · rename_i hid
    exact (identFromToken_spec p hp).mono fun _ _ h => h (ne_eof_of_identifierOrKeyword hid)
  · exact (errorAtToken_spec _ p hp).bind fun _ q hq _ =>
      (missingIdent_spec q hq).mono fun _ _ _ h => h.elim

theorem literal_spec :
    Spec literal fun p r q => p.scanner.token ≠ .endOfFileToken → Reads p r q := by
  intro p hp
  unfold literal
  simp only [runs_get]
  refine (nextToken_spec p hp).bind fun _ q hq _ => Runs.pure hq fun _ ⟨he, hadv⟩ hne => ?_
  exact Node.Read.leaf rfl trivial trivial (Nat.le_refl _) (hp.valid.tokenStart_lt_pos hne)
    (Nat.le_of_eq he.symm)

theorem keywordNode_spec :
    Spec keywordNode fun p r q => r = .keyword ⟨p.scanner.tokenStart, q.prevEnd⟩ p.scanner.token ∧
      (p.scanner.token ≠ .endOfFileToken → Reads p r q) := by
  intro p hp
  unfold keywordNode
  simp only [runs_tokenPos, runs_token]
  refine (nextToken_spec p hp).bind fun _ q hq _ => ?_
  simp only [runs_lastEnd]
  exact Runs.pure hq fun _ ⟨_, hadv⟩ => ⟨rfl, fun hne =>
    Node.Read.leaf rfl trivial trivial (Nat.le_refl _) (hadv hne) (Nat.le_refl _)⟩

/-! Rescans read the current token again from its start. -/

theorem rescanGreater_spec :
    Spec rescanGreater fun p _ q => q = { p with scanner := p.scanner.rescanGreater } := by
  intro p hp
  have hr := rescanGreater_readsOn p.scanner
  obtain ⟨hs, hf⟩ := moves_of_scanner hp (.greater _) (rescanGreater_valid hp.valid)
    (rescanGreater_pos_le hp.pos_le) hr.text_eq hr.tokenStart_eq
  exact ⟨hs, hf, fun _ => rfl⟩

theorem rescanSlash_token_ne {s : Scanner} (h : s.token ≠ .endOfFileToken) :
    s.rescanSlash.token ≠ .endOfFileToken := by
  unfold Scanner.rescanSlash
  split
  · exact h
  · simp

theorem rescanTemplate_token_ne {s : Scanner} (h : s.token ≠ .endOfFileToken) :
    s.rescanTemplate.token ≠ .endOfFileToken := by
  unfold Scanner.rescanTemplate
  split
  · exact h
  · exact scanTemplate_token_ne false h

theorem rescanSlash_spec :
    Spec rescanSlash fun p _ q => q.prevEnd = p.prevEnd ∧
      q.scanner.tokenStart = p.scanner.tokenStart ∧
      (p.scanner.token ≠ .endOfFileToken → q.scanner.token ≠ .endOfFileToken) := by
  intro p hp
  obtain ⟨hv, htext, hts⟩ := rescanSlash_valid hp.valid
  obtain ⟨hs, hf⟩ := moves_of_scanner hp (.slash _) hv (rescanSlash_pos_le hp.valid hp.pos_le) htext
    hts
  exact ⟨hs, hf, fun _ => ⟨rfl, hts, rescanSlash_token_ne⟩⟩

theorem rescanTemplate_spec :
    Spec rescanTemplate fun p _ q => q.prevEnd = p.prevEnd ∧
      q.scanner.tokenStart = p.scanner.tokenStart ∧
      (p.scanner.token ≠ .endOfFileToken → q.scanner.token ≠ .endOfFileToken) := by
  intro p hp
  obtain ⟨hv, htext, hts⟩ := rescanTemplate_valid hp.valid
  obtain ⟨hs, hf⟩ := moves_of_scanner hp (.template _) hv (rescanTemplate_pos_le hp.valid hp.pos_le)
    htext hts
  exact ⟨hs, hf, fun _ => ⟨rfl, hts, rescanTemplate_token_ne⟩⟩

theorem spansLines_spec (start stop : Nat) : Spec (spansLines start stop) fun p _ q => q = p := by
  intro p hp
  unfold spansLines
  simp only [runs_get]
  split <;> exact Runs.pure hp fun _ => rfl

end Cursor

/-! ### Speculation, context and nesting -/

section Combinators

variable {α : Type} {Q : Parser → α → Parser → Prop}

theorem Spec.ite {c : Prop} [Decidable c] {m₁ m₂ : ParserM α} (h₁ : Spec m₁ Q) (h₂ : Spec m₂ Q) :
    Spec (if c then m₁ else m₂) Q := by
  split
  · exact h₁
  · exact h₂

theorem Spec.optional {c : Prop} [Decidable c] {m : ParserM Node} (hm : Spec m Reads) :
    Spec (if c then some <$> m else pure none) fun p r q => ∀ x ∈ r, Reads p x q :=
  Spec.ite (fun p hp => Runs.map ((hm p hp).mono fun _ _ h _ hx => Option.some.inj hx ▸ h))
    fun _ hp => Runs.pure hp fun _ _ hx => nomatch hx

theorem Runs.some_map {m : ParserM α} {R : α → Parser → Prop} (h : Runs p m R) :
    Runs p (some <$> m) fun o q => ∀ x ∈ o, R x q :=
  Runs.map (h.mono fun _ _ hx _ hy => Option.some.inj hy ▸ hx)

theorem Runs.ite_bind {c : Prop} [Decidable c] {m₁ m₂ : ParserM α} {f : α → ParserM β}
    {Q : α → Parser → Prop} {R : β → Parser → Prop} (h₁ : Runs p m₁ Q) (h₂ : Runs p m₂ Q)
    (hf : ∀ a q, Sane q → Follows p q → Runs q (f a) fun b r => Q a q → R b r) :
    Runs p (if c then m₁ >>= f else m₂ >>= f) R := by
  split
  · exact h₁.bind hf
  · exact h₂.bind hf

theorem Runs.optional {c : Prop} [Decidable c] {m : ParserM Node} {f : Option Node → ParserM β}
    {R : β → Parser → Prop} (hp : Sane p) (hm : Spec m Reads)
    (hf : ∀ o q, Sane q → Follows p q → Runs q (f o) fun b r => (∀ x ∈ o, Reads p x q) → R b r) :
    Runs p (if c then some <$> m >>= f else Pure.pure none >>= f) R :=
  Runs.ite_bind (hm p hp).some_map (Runs.pure hp fun _ _ hx => nomatch hx) hf

/-- A step that runs from every sane state to a sane state that follows it, whatever it yields. -/
abbrev Moves (m : ParserM α) : Prop :=
  Spec m fun _ _ _ => True

theorem Moves.of_spec {m : ParserM α} (h : Spec m Q) : Moves m :=
  fun p hp => (h p hp).mono fun _ _ _ => trivial

theorem Moves.bind {β : Type} {m : ParserM α} {f : α → ParserM β} (hm : Moves m)
    (hf : ∀ a, Moves (f a)) : Moves (m >>= f) :=
  fun p hp => (hm p hp).bind fun a q hq _ => (hf a q hq).mono fun _ _ _ _ => trivial

theorem Moves.pure (x : α) : Moves (Pure.pure x : ParserM α) :=
  fun _ hp => Runs.pure hp fun _ => trivial

theorem Moves.read {m : ParserM α} (h : ∀ p, (m.run p).2 = p) : Moves m := by
  intro p hp
  unfold Runs
  rw [h]
  exact ⟨hp, .refl hp, fun _ => trivial⟩

/-- Going back after a step that moves from a sane state gives that state: a look-ahead yields
what its step yields and leaves the parser as it was. -/
theorem lookAhead_exact {m : ParserM α} (hm : Moves m) {p : Parser} (hp : Sane p) :
    (lookAhead m).run p = ((m.run p).1, p) := by
  rw [lookAhead_run, (hm p hp).2.1.rewind_eq hp]

/-- A tried step that yields nothing, or reports a diagnostic, leaves the parser as it was. -/
theorem tryParse_exact {m : ParserM (Option α)} (hm : Moves m) {p : Parser} (hp : Sane p)
    (hfail : (m.run p).1 = none ∨ (m.run p).2.diagnostics.size ≠ p.diagnostics.size) :
    (tryParse m).run p = (none, p) := by
  have hf := (hm p hp).2.1
  rw [tryParse_run]
  rcases hr : m.run p with ⟨_ | v, q⟩
  · rw [hr] at hf
    exact congrArg _ (hf.rewind_eq hp)
  · rw [hr] at hf hfail
    have hd : (q.diagnostics.size == p.diagnostics.size) = false := by
      simpa using hfail
    simp only [hd, Bool.false_eq_true, if_false]
    exact congrArg _ (hf.rewind_eq hp)

theorem lookAhead_spec {m : ParserM α} (hm : Moves m) :
    Spec (lookAhead m) fun p r q => q = p ∧ r = (m.run p).1 := by
  intro p hp
  unfold Runs
  rw [lookAhead_exact hm hp]
  exact ⟨hp, .refl hp, fun _ => ⟨rfl, rfl⟩⟩

theorem lookAhead_moves {m : ParserM α} (hm : Moves m) : Moves (lookAhead m) :=
  .of_spec (lookAhead_spec hm)

theorem nextToken_moves : Moves nextToken :=
  .of_spec nextToken_spec

theorem nextIs_moves (k : TokenKind) : Moves (nextIs k) :=
  nextToken_moves.bind fun _ => .read fun _ => rfl

theorem lookAhead_next_moves {m : ParserM α} (h : ∀ p, (m.run p).2 = p) :
    Moves (lookAhead (nextToken >>= fun _ => m)) :=
  lookAhead_moves (nextToken_moves.bind fun _ => .read h)

theorem accept_moves (k : TokenKind) : Moves (accept k) := by
  unfold accept
  exact (Moves.read fun _ => rfl).bind fun _ =>
    Spec.ite (nextToken_moves.bind fun _ => .pure _) (Moves.pure _)

theorem peekIs_spec (k : TokenKind) : Spec (peekIs k) fun p _ q => q = p :=
  fun p hp => (lookAhead_spec (nextIs_moves k) p hp).mono fun _ _ h => h.1

theorem tryParse_spec {m : ParserM (Option α)} {Q : Parser → Option α → Parser → Prop}
    (hm : Spec m Q) : Spec (tryParse m) fun p r q => r = none ∨ Q p r q := by
  intro p hp
  obtain ⟨hs, hf, hq⟩ := hm p hp
  by_cases hfail : (m.run p).1 = none ∨ (m.run p).2.diagnostics.size ≠ p.diagnostics.size
  · unfold Runs
    rw [tryParse_exact (.of_spec hm) hp hfail]
    exact ⟨hp, .refl hp, fun _ => .inl rfl⟩
  · obtain ⟨hsome, hsize⟩ := not_or.1 hfail
    unfold Runs
    rw [tryParse_run]
    rcases hr : m.run p with ⟨_ | v, q⟩
    · rw [hr] at hsome
      exact absurd rfl hsome
    · rw [hr] at hs hf hq hsize
      have hd : (q.diagnostics.size == p.diagnostics.size) = true := by
        simpa using hsize
      simp only [hd, if_true]
      exact ⟨hs, hf, fun hc => .inr (hq hc)⟩

theorem withContext_spec (f : Context → Context) {m : ParserM α} (hm : Spec m Q)
    (hQ : ∀ p r q c c', Q { p with context := c } r q → Q p r { q with context := c' }) :
    Spec (withContext f m) Q := by
  intro p hp
  obtain ⟨hs₁, hf₁⟩ := moves_of_same (q := { p with context := f p.context }) hp rfl rfl rfl rfl rfl
  obtain ⟨hs, hf, hq⟩ := hm _ hs₁
  obtain ⟨hs₂, hf₂⟩ := moves_of_same
    (q := { (m.run { p with context := f p.context }).2 with context := p.context }) hs rfl rfl rfl
    rfl rfl
  exact ⟨hs₂, (hf₁.trans hf).trans hf₂, fun hc => hQ _ _ _ _ _ (hq (hc.back hf₂))⟩

theorem allowIn_spec {m : ParserM α} (hm : Spec m Q)
    (hQ : ∀ p r q c c', Q { p with context := c } r q → Q p r { q with context := c' }) :
    Spec (allowIn m) Q :=
  withContext_spec _ hm hQ

theorem disallowIn_spec {m : ParserM α} (hm : Spec m Q)
    (hQ : ∀ p r q c c', Q { p with context := c } r q → Q p r { q with context := c' }) :
    Spec (disallowIn m) Q :=
  withContext_spec _ hm hQ

theorem guarded_spec {fallback m : ParserM α} (hfb : Moves fallback) (hm : Spec m Q)
    (hQ : ∀ p r q d d', Q { p with depth := d } r q → Q p r { q with depth := d' }) :
    Spec (guarded fallback m) Q := by
  intro p hp
  unfold guarded
  simp only [runs_get]
  split
  · exact (errorAtToken_spec _ p hp).bind fun _ q hq _ => (hfb q hq).mono fun _ _ _ h => h.elim
  · have hs₁ := sane_of_same (q := { p with depth := p.depth + 1 }) hp rfl rfl rfl rfl
    obtain ⟨hs, hf, hq⟩ := hm _ hs₁
    have hs₂ := sane_of_same
      (q := { (m.run { p with depth := p.depth + 1 }).2 with
        depth := (m.run { p with depth := p.depth + 1 }).2.depth - 1 }) hs rfl rfl rfl rfl
    exact ⟨hs₂, hf.deeper, fun hc => hQ _ _ _ _ _ (hq hc)⟩

end Combinators

/-! ### Lists and skipping -/

section Lists

variable {e : ParserM Node}

theorem Reads.widen {p q r s : Parser} {x : Node} (h : Reads q x r) (h₁ : Follows p q)
    (h₂ : Follows r s) : Reads p x s :=
  h.mono h₁.tokenStart_le h₂.prevEnd_le

theorem Reads.since {p q r : Parser} {x : Node} (h : Reads q x r) (h₁ : Follows p q) :
    Reads p x r :=
  h.mono h₁.tokenStart_le (Nat.le_refl _)

theorem ReadsAll.snoc {p₀ p q r : Parser} {acc : List Node} {x : Node}
    (hacc : ReadsAll p₀ acc p) (hx : Reads q x r) (h₀ : Follows p₀ p) (h₁ : Follows p q) :
    ReadsAll p₀ (acc ++ [x]) r := by
  have := h₀.tokenStart_le
  have := h₁.tokenStart_le
  have := h₁.prevEnd_le_tokenStart
  have := hx.lo_le
  have := hx.nonempty
  have := hx.stop_le
  exact hacc.append hx.all (by omega) (by omega) (by omega)

theorem ReadsAll.later {p q r : Parser} {l : List Node} (h : ReadsAll p l q) (hf : Follows q r) :
    ReadsAll p l r :=
  h.mono (Nat.le_refl _) hf.prevEnd_le

theorem ReadsAll.since {p q r : Parser} {l : List Node} (h : ReadsAll q l r) (h₁ : Follows p q) :
    ReadsAll p l r :=
  h.mono h₁.tokenStart_le (Nat.le_refl _)

theorem ReadsAll.extend {start : Nat} {q r : Parser} {l₁ l₂ : List Node}
    (h₁ : Node.ReadAll start l₁ q.prevEnd) (h₂ : ReadsAll q l₂ r) (hs : start ≤ q.scanner.tokenStart)
    (hq : Sane q) (hr : Follows q r) : Node.ReadAll start (l₁ ++ l₂) r.prevEnd :=
  h₁.append h₂ hq.prevEnd_le hs hr.prevEnd_le

theorem ReadsAll.append {p q q' r : Parser} {l₁ l₂ : List Node} (h₁ : ReadsAll p l₁ q)
    (h₂ : ReadsAll q' l₂ r) (hpq : Follows p q) (hq : Follows q q') (hr : Follows q' r) :
    ReadsAll p (l₁ ++ l₂) r :=
  Node.ReadAll.append h₁ h₂ hq.prevEnd_le_tokenStart (hpq.trans hq).tokenStart_le
    (hq.trans hr).prevEnd_le

/-! A rule builds its node from the token it began at: its children are read one after the
other by its steps, with tokens between them. -/

/-- The children `kids` of a node that began at `start` have been read up to the state `q`,
which stands at or after `start`. -/
structure Built (start : Nat) (kids : List Node) (q : Parser) : Prop where
  kids : Node.ReadAll start kids q.prevEnd
  start_le : start ≤ q.scanner.tokenStart

section Built

variable {start : Nat} {kids l : List Node} {p q r : Parser}

theorem Built.begin (p : Parser) : Built p.scanner.tokenStart [] p :=
  ⟨Node.readAll_nil, Nat.le_refl _⟩

theorem Built.of_le (hs : start ≤ q.scanner.tokenStart) : Built start [] q :=
  ⟨Node.readAll_nil, hs⟩

theorem Built.congr (hb : Built start kids q) (h₁ : r.prevEnd = q.prevEnd)
    (h₂ : r.scanner = q.scanner) : Built start kids r :=
  ⟨h₁ ▸ hb.kids, h₂ ▸ hb.start_le⟩

theorem Built.skip (hb : Built start kids q) (hf : Follows q r) : Built start kids r :=
  ⟨hb.kids.mono (Nat.le_refl _) hf.prevEnd_le, hb.start_le.trans hf.tokenStart_le⟩

theorem Built.add (hb : Built start kids q) (hq : Sane q) (hl : ReadsAll q l r) (hf : Follows q r) :
    Built start (kids ++ l) r :=
  ⟨ReadsAll.extend hb.kids hl hb.start_le hq hf, hb.start_le.trans hf.tokenStart_le⟩

theorem Built.read {x : Node} (hb : Built start kids q) (hq : Sane q) (hx : Reads q x r)
    (hf : Follows q r) : Built start (kids ++ [x]) r :=
  hb.add hq hx.all hf

theorem Built.opt {o : Option Node} (hb : Built start kids q) (hq : Sane q)
    (hx : ∀ x ∈ o, Reads q x r) (hf : Follows q r) : Built start (kids ++ o.toList) r :=
  hb.add hq (Node.ReadAll.option hx) hf

theorem Built.none (hb : Built start kids q) :
    Built start (kids ++ (none : Option Node).toList) q := by
  simpa only [Option.toList, List.append_nil] using hb

theorem Built.omitted (hb : Built start kids q) (hq : Sane q) (hf : Follows q r)
    (hpos : q.scanner.tokenStart ≤ r.prevEnd) :
    Built start (kids ++ [.omitted ⟨q.scanner.tokenStart, q.scanner.tokenStart⟩]) r :=
  hb.add hq (Node.readAll_omitted (Nat.le_refl _) hpos) hf

theorem Built.lt_of_read {x : Node} (hb : Built start kids q) (hx : Reads q x r) :
    start < r.prevEnd :=
  hb.start_le.trans_lt hx.lt

/-- The node, spanning from `start` to the end of the last token consumed, once something was. -/
theorem Built.node {n : Node} (hb : Built start kids q) (hkids : n.children = kids)
    (hpos : n.pos = start) (hstop : n.stop = q.prevEnd) (hlt : start < q.prevEnd)
    (hop : n.OperandsOK) (hnest : n.NestingOK) : Node.Read start n q.prevEnd :=
  Node.Read.node hpos hstop hlt (hkids ▸ hb.kids) hop hnest

end Built

theorem separated_loop_spec {sep : TokenKind} {P : Node → Prop} (hsep : sep ≠ .endOfFileToken)
    (he : Spec e fun p x q => Reads p x q ∧ P x) (p₀ : Parser) :
    ∀ (n : Nat) (acc : List Node) (p : Parser), Sane p → Follows p₀ p →
      Runs p (separated.loop sep e n acc) fun r q =>
        ReadsAll p₀ acc.reverse p → (∀ x ∈ acc, P x) → ReadsAll p₀ r q ∧ ∀ x ∈ r, P x
  | 0, acc, p, hp, _ => Runs.pure hp fun _ h hP => ⟨h, fun x hx => hP x (List.mem_reverse.1 hx)⟩
  | n + 1, acc, p, hp, h₀ => by
    unfold separated.loop
    refine (accept_spec hsep p hp).bind fun b q hq h₁ => ?_
    split
    · refine (he q hq).bind fun x r hr h₂ => ?_
      refine (separated_loop_spec hsep he p₀ n (x :: acc) r hr
        ((h₀.trans h₁).trans h₂)).mono fun l s hl hx _ hacc hP => hl ?_ ?_
      · rw [List.reverse_cons]
        exact hacc.snoc hx.1 h₀ h₁
      · exact List.forall_mem_cons.2 ⟨hx.2, hP⟩
    · exact Runs.pure hq fun _ _ hacc hP =>
        ⟨hacc.later h₁, fun x hx => hP x (List.mem_reverse.1 hx)⟩

theorem separated_spec {sep : TokenKind} {P : Node → Prop} (hsep : sep ≠ .endOfFileToken)
    (he : Spec e fun p x q => Reads p x q ∧ P x) :
    Spec (separated sep e) fun p l q => ReadsAll p l q ∧ ∀ x ∈ l, P x := by
  intro p hp
  unfold separated
  simp only [runs_budget]
  exact (separated_loop_spec hsep he p _ [] p hp (.refl hp)).mono fun _ _ h =>
    h Node.readAll_nil fun _ hx => nomatch hx

theorem delimited_loop_spec {close : TokenKind} (he : Spec e Reads) (p₀ : Parser) :
    ∀ (n : Nat) (acc : List Node) (trailing : Bool) (p : Parser), Sane p → Follows p₀ p →
      Runs p (delimited.loop close e n acc trailing) fun r q =>
        ReadsAll p₀ acc.reverse p → ReadsAll p₀ r.1 q
  | 0, acc, trailing, p, hp, _ => Runs.pure hp fun _ h => h
  | n + 1, acc, trailing, p, hp, h₀ => by
    unfold delimited.loop
    simp only [runs_isToken]
    split
    · exact Runs.pure hp fun _ h => h
    simp only [runs_tokenPos]
    refine (he p hp).bind fun x q hq h₁ => ?_
    refine (accept_spec (by decide) q hq).bind fun b r hr h₂ => ?_
    have hnext : ∀ s, Follows r s → ReadsAll p₀ acc.reverse p → Reads p x q →
        ReadsAll p₀ (x :: acc).reverse s := fun s h₃ hacc hx => by
      rw [List.reverse_cons]
      exact ((hacc.snoc hx h₀ (.refl hp)).later h₂).later h₃
    split
    · simp only [runs_isToken]
      exact (delimited_loop_spec he p₀ n (x :: acc) _ r hr ((h₀.trans h₁).trans h₂)).mono
        fun l s hl _ hx hacc => hl (hnext r (.refl hr) hacc hx)
    · simp only [runs_isToken]
      split
      · refine (expect_spec (by decide) r hr).bind fun _ s hs h₃ => ?_
        simp only [runs_tokenPos]
        split
        · exact (nextToken_spec s hs).bind fun _ t ht h₄ =>
            Runs.pure ht fun _ _ _ _ hx hacc => hnext t (h₃.trans h₄) hacc hx
        · exact Runs.pure hs fun _ _ _ hx hacc => hnext s h₃ hacc hx
      · exact Runs.pure hr fun _ _ hx hacc => hnext r (.refl hr) hacc hx

theorem delimited_spec {close : TokenKind} (he : Spec e Reads) :
    Spec (delimited close e) fun p r q => ReadsAll p r.1 q := by
  intro p hp
  unfold delimited
  simp only [runs_budget]
  exact (delimited_loop_spec he p _ [] false p hp (.refl hp)).mono
    fun _ _ h => h Node.readAll_nil

theorem skipToStatementEnd_loop_spec :
    ∀ (n depth : Nat), Spec (skipToStatementEnd.loop n depth) fun _ _ _ => True
  | 0, _, p, hp => Runs.pure hp fun _ => trivial
  | n + 1, depth, p, hp => by
    have hnext : Spec nextToken fun _ _ _ => True := fun p hp =>
      (nextToken_spec p hp).mono fun _ _ _ => trivial
    have hgo : ∀ d, Runs p (nextToken >>= fun _ => skipToStatementEnd.loop n d) fun _ _ => True :=
      fun d => (hnext p hp).bind fun _ q hq _ =>
        (skipToStatementEnd_loop_spec n d q hq).mono fun _ _ _ _ => trivial
    unfold skipToStatementEnd.loop
    simp only [runs_token]
    split
    · exact Runs.pure hp fun _ => trivial
    · exact hgo _
    · split
      · exact hnext p hp
      · exact hgo _
    · refine (hnext p hp).bind fun _ q hq _ => ?_
      split
      · exact (skipToStatementEnd_loop_spec n depth q hq).mono fun _ _ _ _ => trivial
      · exact Runs.pure hq fun _ _ => trivial
    · exact hgo _

theorem skipToStatementEnd_spec : Spec skipToStatementEnd fun _ _ _ => True := by
  intro p hp
  unfold skipToStatementEnd
  simp only [runs_budget]
  exact skipToStatementEnd_loop_spec _ 0 p hp

theorem unsupportedDeclaration_spec (what : String) :
    Spec (unsupportedDeclaration what) fun _ _ _ => False := by
  intro p hp
  unfold unsupportedDeclaration
  simp only [runs_tokenPos]
  refine (reportUnsupported_spec what p hp).bind fun _ q hq _ => ?_
  refine (skipToStatementEnd_spec q hq).bind fun _ r hr _ => ?_
  simp only [runs_lastEnd]
  exact Runs.pure hr fun _ _ h => h.elim

end Lists

/-! ### What the entry points promise -/

/-- Whether an operator continues an expression whose operators bind tighter than `minPrec`, as
`binaryRest` tests it: `**` groups to the right. -/
def Binds (minPrec : Nat) (op : TokenKind) : Prop :=
  if op = .asteriskAsteriskToken then minPrec ≤ Node.operatorPrecedence op
  else minPrec < Node.operatorPrecedence op

/-- The outermost operator of `n`, if it has one, binds at `minPrec`. -/
def Above (minPrec : Nat) (n : Node) : Prop :=
  ∀ op ∈ n.operator?, Binds minPrec op

/-- The operator at `q`, with a `>` read again, does not go on into a binary node at `minPrec`:
it is none, it binds no tighter, or it is an `as` or `satisfies`, which build no binary node. -/
def Stops (minPrec : Nat) (q : Parser) : Prop :=
  binaryPrecedence q.scanner.rescanGreater.token q.context.disallowIn = 0 ∨
    ¬Binds minPrec q.scanner.rescanGreater.token ∨
    q.scanner.rescanGreater.token = .asKeyword ∨ q.scanner.rescanGreater.token = .satisfiesKeyword

end Parser

/-- Every entry point of the grammar reads well-formed nodes on clean runs. Unary operands and
`new` expressions are no binary operations; a binary expression at `minPrec` is built of
operators binding at `minPrec` and stops before one that does not; the operand of a type operator
is at least a type operator. -/
structure Grammar.Sound (g : Grammar) : Prop where
  statement : Parser.Spec g.statement fun p r q => ∀ n ∈ r, Parser.Reads p n q
  block : Parser.Spec g.block Parser.Reads
  expression : Parser.Spec g.expression Parser.Reads
  assignment : Parser.Spec g.assignment Parser.Reads
  unary : Parser.Spec g.unary fun p n q => Parser.Reads p n q ∧ n.operator? = none
  binary : ∀ minPrec, Parser.Spec (g.binary minPrec) fun p n q =>
    Parser.Reads p n q ∧ Parser.Above minPrec n ∧ Parser.Stops minPrec q
  newExpression : Parser.Spec g.newExpression fun p n q => Parser.Reads p n q ∧ n.operator? = none
  type : Parser.Spec g.type Parser.Reads
  typeOperator : Parser.Spec g.typeOperator fun p n q => Parser.Reads p n q ∧ 3 ≤ n.typeLevel
  bindingName : Parser.Spec g.bindingName Parser.Reads

end ParamNarrow
