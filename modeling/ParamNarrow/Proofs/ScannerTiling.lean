import ParamNarrow.Proofs.ScannerSteps
/-!
# Reading tokens tiles the text

Read token after token from the start of a text, past its shebang, the scanner tiles the text
(`scanRun_tiles`). The trivia of each token starts where the last token ended; trivia and token
lie in order inside the text, at character boundaries; every token but the end of the file spans
at least one byte; and the end of the file is read at the end of the text, at the latest on the
read after as many reads as the text has bytes, and again on every read after it. The comments
recorded lie in order, each inside the trivia of one of the tokens read, and each starts with
`//` or `/*`.

One read from a position at a boundary is `ReadsToken`. The loop of `scan` steps over trivia,
keeping `TriviaFrom`: each step records at most one comment, over the bytes it skipped. The token
read at the end keeps the comments (`TokenStep`).
-/

namespace ParamNarrow

namespace Scanner

open Text

/-- The scanner after skipping the shebang of `text` and reading `k` tokens. -/
def scanRun (text : String) : Nat → Scanner
  | 0 => (new text).skipShebang
  | k + 1 => (scanRun text k).scan

/-- The byte range of each comment recorded. -/
def spans (s : Scanner) : List (Nat × Nat) :=
  s.comments.toList.map fun c => (c.pos, c.stop)

/-- A `//` or a `/*` stands at `p`. -/
def CommentStart (text : String) (p : Nat) : Prop :=
  Text.byteIs text p '/' = true ∧
    (Text.byteIs text (p + 1) '/' = true ∨ Text.byteIs text (p + 1) '*' = true)

/-- Comment ranges in order inside `[lo, hi)`, none empty, each starting with a comment's opening. -/
def InTrivia (text : String) (lo hi : Nat) (l : List (Nat × Nat)) : Prop :=
  l.Pairwise (fun a b => a.2 ≤ b.1) ∧
    ∀ x ∈ l, lo ≤ x.1 ∧ x.1 < x.2 ∧ x.2 ≤ hi ∧ CommentStart text x.1

/-- Where a token read lies: its trivia, then the token, in order inside the text and at character
boundaries; a token other than the end of the file is not empty, and the end of the file is read at
the end of the text. -/
structure WellPlaced (s : Scanner) : Prop where
  fullStart_le : s.fullStart ≤ s.tokenStart
  tokenStart_le : s.tokenStart ≤ s.pos
  pos_le : s.pos ≤ s.size
  fullStart_boundary : IsBoundary s.text s.fullStart
  tokenStart_boundary : IsBoundary s.text s.tokenStart
  pos_boundary : IsBoundary s.text s.pos
  nonempty : s.token ≠ .endOfFileToken → s.tokenStart < s.pos
  eof_at_end : s.token = .endOfFileToken → s.pos = s.size

/-- What one read from `s` gives: a well placed token in the same text whose trivia starts where
`s` ended, with the comments of `s` and after them those recorded in that trivia. -/
structure ReadsToken (s t : Scanner) : Prop where
  text_eq : t.text = s.text
  fullStart_eq : t.fullStart = s.pos
  wellPlaced : t.WellPlaced
  spans_eq : ∃ new, t.spans = s.spans ++ new ∧ InTrivia s.text s.pos t.tokenStart new

/-! ### Comment ranges -/

theorem spans_of_comments_eq {s t : Scanner} (h : t.comments = s.comments) : t.spans = s.spans := by
  simp [spans, h]

theorem spans_of_comments_push {s t : Scanner} {c : Comment} (h : t.comments = s.comments.push c) :
    t.spans = s.spans ++ [(c.pos, c.stop)] := by
  simp [spans, h]

theorem spans_markLineEnd (s : Scanner) : s.markLineEnd.spans = s.spans := by
  unfold markLineEnd
  split
  · split
    · simp only [spans, Array.toList_modify]
      apply List.ext_getElem (by simp)
      intro j h₁ h₂
      simp only [List.getElem_map, List.getElem_modify]
      split <;> rfl
    · rfl
  · rfl

theorem InTrivia.nil (text : String) (lo hi : Nat) : InTrivia text lo hi [] :=
  ⟨List.Pairwise.nil, by simp⟩

theorem InTrivia.mono {text : String} {lo hi hi' : Nat} {l : List (Nat × Nat)}
    (h : InTrivia text lo hi l) (hle : hi ≤ hi') : InTrivia text lo hi' l :=
  ⟨h.1, fun x hx => by
    obtain ⟨h1, h2, h3, h4⟩ := h.2 x hx
    exact ⟨h1, h2, by omega, h4⟩⟩

theorem InTrivia.push {text : String} {lo p q : Nat} {l : List (Nat × Nat)}
    (h : InTrivia text lo p l) (hlo : lo ≤ p) (hpq : p < q) (hstart : CommentStart text p) :
    InTrivia text lo q (l ++ [(p, q)]) := by
  refine ⟨List.pairwise_append.2 ⟨h.1, List.pairwise_singleton _ _, ?_⟩, ?_⟩
  · intro a ha b hb
    rw [List.mem_singleton] at hb
    subst hb
    exact (h.2 a ha).2.2.1
  · intro x hx
    rcases List.mem_append.1 hx with hx | hx
    · obtain ⟨h1, h2, h3, h4⟩ := h.2 x hx
      exact ⟨h1, h2, by omega, h4⟩
    · rw [List.mem_singleton] at hx
      subst hx
      exact ⟨hlo, hpq, Nat.le_refl _, hstart⟩

/-! ### One read -/

/-- The loop of `scan` from `s` has stepped over trivia up to `u`: in the same text, with the
trivia's start and the token kind of `s`, at a boundary, and with the comments of `s` and after
them those recorded since. -/
structure TriviaFrom (s u : Scanner) : Prop where
  start_boundary : IsBoundary s.text s.pos
  text_eq : u.text = s.text
  fullStart_eq : u.fullStart = s.pos
  token_eq : u.token = s.token
  pos_ge : s.pos ≤ u.pos
  boundary : IsBoundary s.text u.pos
  spans_eq : ∃ new, u.spans = s.spans ++ new ∧ InTrivia s.text s.pos u.pos new

theorem TriviaFrom.start {s : Scanner} (hs : IsBoundary s.text s.pos) :
    TriviaFrom s { s with fullStart := s.pos, lineBreakBefore := false, value := "" } :=
  ⟨hs, rfl, rfl, rfl, Nat.le_refl _, hs, ⟨[], by simp [spans], InTrivia.nil _ _ _⟩⟩

theorem commentStart_of_charAt? {u : Scanner} (hc : u.charAt? u.pos = some '/')
    (hnext : u.byteIs (u.pos + 1) '/' = true ∨ u.byteIs (u.pos + 1) '*' = true) :
    CommentStart u.text u.pos := by
  refine ⟨?_, hnext⟩
  simp [Text.byteIs, Text.byteAt?_of_charAt? hc (by decide), Char.toUInt8]

theorem TriviaFrom.step {s u v : Scanner} (h : TriviaFrom s u)
    (hv : Trivia { u with tokenStart := u.pos } v) : TriviaFrom s v := by
  have htext : v.text = u.text := hv.text_eq
  have hlt : u.pos < v.pos := hv.pos_lt
  obtain ⟨new, hspans, hnew⟩ := h.spans_eq
  refine ⟨h.start_boundary, htext.trans h.text_eq, hv.fullStart_eq.trans h.fullStart_eq, hv.token_eq.trans h.token_eq,
    by have := h.pos_ge; omega, h.text_eq ▸ hv.boundary, ?_⟩
  rcases hv.comments with hmark | hsame | ⟨⟨multiLine, hpush⟩, hc, hnext⟩
  · refine ⟨new, ?_, hnew.mono (Nat.le_of_lt hlt)⟩
    rw [spans_of_comments_eq hmark, spans_markLineEnd]
    exact hspans
  · refine ⟨new, ?_, hnew.mono (Nat.le_of_lt hlt)⟩
    rw [spans_of_comments_eq hsame]
    exact hspans
  · refine ⟨new ++ [(u.pos, v.pos)], ?_, hnew.push h.pos_ge hlt ?_⟩
    · rw [spans_of_comments_push hpush]
      show u.spans ++ [(u.pos, v.pos)] = _
      rw [hspans, List.append_assoc]
    · rw [← h.text_eq]
      exact commentStart_of_charAt? hc hnext

theorem TriviaFrom.eof {s u : Scanner} (h : TriviaFrom s u) (hnone : u.charAt? u.pos = none) :
    ReadsToken s { u with tokenStart := u.pos, token := .endOfFileToken } := by
  have hb : IsBoundary u.text u.pos := h.text_eq ▸ h.boundary
  have hsize : u.pos = u.size := hb.eq_size_of_charAt? hnone
  obtain ⟨new, hspans, hnew⟩ := h.spans_eq
  refine ⟨h.text_eq, h.fullStart_eq, ?_, ⟨new, hspans, hnew⟩⟩
  exact { fullStart_le := h.fullStart_eq ▸ h.pos_ge
          tokenStart_le := Nat.le_refl _
          pos_le := Nat.le_of_eq hsize
          fullStart_boundary := by
            show IsBoundary u.text u.fullStart
            rw [h.fullStart_eq, h.text_eq]
            exact h.start_boundary
          tokenStart_boundary := hb
          pos_boundary := hb
          nonempty := fun hne => absurd rfl hne
          eof_at_end := fun _ => hsize }

theorem TriviaFrom.token {s u : Scanner} {c : Char} (h : TriviaFrom s u)
    (heof : s.token = .endOfFileToken → s.pos = s.size) (hc : u.charAt? u.pos = some c) :
    ReadsToken s ({ u with tokenStart := u.pos }.scanAt c) := by
  have hstep := scanAt_step (s := { u with tokenStart := u.pos }) hc
  obtain ⟨hstart, hadv⟩ := scanAt_from hc
  have hne : u.token ≠ .endOfFileToken := by
    intro he
    have hlt := Text.charAt?_lt hc
    have hsize := heof (h.token_eq ▸ he)
    have := h.pos_ge
    simp only [size, ← h.text_eq] at hsize
    omega
  obtain ⟨new, hspans, hnew⟩ := h.spans_eq
  refine ⟨hstep.readsOn.text_eq.trans h.text_eq, hstep.fullStart_eq.trans h.fullStart_eq, ?_,
    ⟨new, (spans_of_comments_eq hstep.comments_eq).trans hspans, by rw [hstart]; exact hnew⟩⟩
  have hb : IsBoundary ({ u with tokenStart := u.pos }.scanAt c).text
      ({ u with tokenStart := u.pos }.scanAt c).pos := by
    rw [hstep.readsOn.text_eq]
    exact hstep.boundary (h.text_eq ▸ h.boundary)
  exact { fullStart_le := by rw [hstart, hstep.fullStart_eq]; exact h.fullStart_eq ▸ h.pos_ge
          tokenStart_le := by omega
          pos_le := hb.le_size
          fullStart_boundary := by
            rw [hstep.fullStart_eq, hstep.readsOn.text_eq]
            show IsBoundary u.text u.fullStart
            rw [h.fullStart_eq, h.text_eq]
            exact h.start_boundary
          tokenStart_boundary := by
            rw [hstart, hstep.readsOn.text_eq]
            exact h.text_eq ▸ h.boundary
          pos_boundary := hb
          nonempty := fun _ => by omega
          eof_at_end := fun he => absurd he (scanAt_token_ne _ c hne) }

/-- One read from a position at a boundary, where the end of the file was read only at the end of
the text. -/
theorem scan_readsToken {s : Scanner} (hs : IsBoundary s.text s.pos)
    (heof : s.token = .endOfFileToken → s.pos = s.size) : ReadsToken s s.scan := by
  unfold scan
  exact scanLoop_rule (TriviaFrom s) (ReadsToken s) (fun _ _ hu hv => hu.step hv)
    (fun _ hu hn => hu.eof hn) (fun _ _ hu hc _ _ _ _ => hu.token heof hc) _ _ (.start hs)
    (Nat.lt_succ_self _)

/-! ### The whole run -/

theorem skipShebang_eq (s : Scanner) : s.skipShebang = { s with pos := s.skipShebang.pos } := by
  unfold skipShebang
  split
  · rfl
  · dsimp only
    split <;> split <;> rfl

theorem skipShebang_boundary (s : Scanner) (hs : IsBoundary s.text s.pos) :
    IsBoundary s.text s.skipShebang.pos := by
  unfold skipShebang
  split
  · exact hs
  · dsimp only
    split
    · rename_i hbom
      split
      · exact isBoundary_findByteFrom _ _ fun _ => isNewlineByte_lt
      · have hc : Text.charAt? s.text 0 = some '\uFEFF' := by simpa [charAt?] using hbom
        exact (isBoundary_of_charAt? hc).2
    · split
      · exact isBoundary_findByteFrom _ _ fun _ => isNewlineByte_lt
      · exact isBoundary_zero _

/-- What holds after the shebang and `k` reads: the text, a position at a boundary, the end of the
file only at the end of the text, and the comments in order, each in the trivia of a token read. -/
structure RunFacts (text : String) (k : Nat) : Prop where
  text_eq : (scanRun text k).text = text
  boundary : IsBoundary text (scanRun text k).pos
  eof_at_end : (scanRun text k).token = .endOfFileToken → (scanRun text k).pos = text.utf8ByteSize
  spans_ordered : (scanRun text k).spans.Pairwise (fun a b => a.2 ≤ b.1)
  spans_placed : ∀ x ∈ (scanRun text k).spans, x.1 < x.2 ∧ x.2 ≤ (scanRun text k).pos ∧
    CommentStart text x.1 ∧
    ∃ j, 0 < j ∧ j ≤ k ∧ (scanRun text j).fullStart ≤ x.1 ∧ x.2 ≤ (scanRun text j).tokenStart

theorem runFacts_zero (text : String) : RunFacts text 0 := by
  have heq := skipShebang_eq (new text)
  have hb := skipShebang_boundary (new text) (isBoundary_zero text)
  refine ⟨by rw [scanRun, heq]; rfl, hb, fun he => ?_, ?_, ?_⟩
  · rw [scanRun, heq] at he
    cases he
  · rw [scanRun, heq]
    simp [spans, new]
  · rw [scanRun, heq]
    simp [spans, new]

theorem RunFacts.readsToken {text : String} {k : Nat} (h : RunFacts text k) :
    ReadsToken (scanRun text k) (scanRun text (k + 1)) :=
  scan_readsToken (by rw [h.text_eq]; exact h.boundary)
    (fun he => by rw [size, h.text_eq]; exact h.eof_at_end he)

theorem RunFacts.succ {text : String} {k : Nat} (h : RunFacts text k) : RunFacts text (k + 1) := by
  have hr := h.readsToken
  have hw := hr.wellPlaced
  have htext : (scanRun text (k + 1)).text = text := hr.text_eq.trans h.text_eq
  have hfull : (scanRun text (k + 1)).fullStart = (scanRun text k).pos := hr.fullStart_eq
  obtain ⟨new, hspans, hnew⟩ := hr.spans_eq
  rw [h.text_eq] at hnew
  have hb := hw.pos_boundary
  rw [htext] at hb
  refine ⟨htext, hb, fun he => by have := hw.eof_at_end he; rwa [size, htext] at this, ?_, ?_⟩
  · rw [hspans]
    refine List.pairwise_append.2 ⟨h.spans_ordered, hnew.1, fun a ha b hb => ?_⟩
    exact Nat.le_trans (h.spans_placed a ha).2.1 (hnew.2 b hb).1
  · intro x hx
    rw [hspans] at hx
    have hle := hw.fullStart_le
    have hle' := hw.tokenStart_le
    rcases List.mem_append.1 hx with hx | hx
    · obtain ⟨h1, h2, h3, j, hj0, hjk, hj1, hj2⟩ := h.spans_placed x hx
      exact ⟨h1, by omega, h3, j, hj0, Nat.le_succ_of_le hjk, hj1, hj2⟩
    · obtain ⟨h1, h2, h3, h4⟩ := hnew.2 x hx
      exact ⟨h2, by omega, h4, k + 1, Nat.succ_pos _, Nat.le_refl _, by omega, h3⟩

theorem runFacts (text : String) : ∀ k, RunFacts text k
  | 0 => runFacts_zero text
  | k + 1 => (runFacts text k).succ

theorem scanRun_eof_succ {text : String} {k : Nat}
    (h : (scanRun text (k + 1)).token = .endOfFileToken) :
    (scanRun text (k + 2)).token = .endOfFileToken := by
  have hsize := (runFacts text k).readsToken.wellPlaced.eof_at_end h
  have hnone : Text.charAt? (scanRun text (k + 1)).text (scanRun text (k + 1)).pos = none := by
    rw [hsize]
    exact Text.charAt?_size _
  show (scanRun text (k + 1)).scan.token = _
  rw [scan_at_end hnone]

theorem scanRun_pos_ge {text : String} :
    ∀ k, (scanRun text (k + 1)).token ≠ .endOfFileToken → k + 1 ≤ (scanRun text (k + 1)).pos
  | 0, hne => Nat.succ_le_of_lt (Nat.lt_of_le_of_lt (Nat.zero_le _)
      ((runFacts text 0).readsToken.wellPlaced.nonempty hne))
  | k + 1, hne => by
    have hprev : (scanRun text (k + 1)).token ≠ .endOfFileToken := fun he => hne (scanRun_eof_succ he)
    have ih := scanRun_pos_ge k hprev
    have hr := (runFacts text (k + 1)).readsToken
    have hfull := hr.fullStart_eq
    have := hr.wellPlaced.fullStart_le
    have := hr.wellPlaced.nonempty hne
    omega

/-- Reading token after token from the start of a text, past its shebang, tiles the text: the end
of the file is read after at most one read more than the text has bytes, and again on every read
after it; each token read is well placed, with its trivia starting where the last read ended; and
the comments recorded lie in order, each starting with a comment's opening, inside the trivia of
one of the tokens read. -/
theorem scanRun_tiles (text : String) :
    (scanRun text (text.utf8ByteSize + 1)).token = .endOfFileToken ∧
    (∀ k, (scanRun text (k + 1)).WellPlaced ∧
      (scanRun text (k + 1)).fullStart = (scanRun text k).pos ∧
      ((scanRun text (k + 1)).token = .endOfFileToken →
        (scanRun text (k + 2)).token = .endOfFileToken)) ∧
    (∀ k, (scanRun text k).text = text ∧
      (scanRun text k).comments.toList.Pairwise (fun a b => a.stop ≤ b.pos) ∧
      ∀ c ∈ (scanRun text k).comments.toList, c.pos < c.stop ∧ CommentStart text c.pos ∧
        ∃ j, 0 < j ∧ j ≤ k ∧ (scanRun text j).fullStart ≤ c.pos ∧ c.stop ≤ (scanRun text j).tokenStart) := by
  refine ⟨?_, fun k => ⟨(runFacts text k).readsToken.wellPlaced, (runFacts text k).readsToken.fullStart_eq,
    scanRun_eof_succ⟩, fun k => ⟨(runFacts text k).text_eq, ?_, ?_⟩⟩
  · refine Decidable.byContradiction fun hne => ?_
    have hge := scanRun_pos_ge text.utf8ByteSize hne
    have hle := (runFacts text (text.utf8ByteSize + 1)).boundary.le_size
    omega
  · have hordered := (runFacts text k).spans_ordered
    rwa [spans, List.pairwise_map] at hordered
  · intro c hc
    obtain ⟨hlt, -, hstart, hread⟩ :=
      (runFacts text k).spans_placed (c.pos, c.stop) (List.mem_map_of_mem hc)
    exact ⟨hlt, hstart, hread⟩

end Scanner

end ParamNarrow
