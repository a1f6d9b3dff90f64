import ParamNarrow.Proofs.TextSplits
/-!
# What each step of the scanner does

The scanner moves through its text by byte offsets. Every offset it stops at is a character
boundary (`Text.IsBoundary`): it moves either over a character it found, to the boundary after it
(`isBoundary_of_charAt?`), or over an ASCII byte it tested, which is a character of its own
(`isBoundary_succ_of_byteAt?`), or to a line break byte it searched for, or to the end of the text.
At a boundary the scanner finds no character only at the end of the text
(`IsBoundary.eq_size_of_charAt?`), so it reads the end of the file only there.

Inside a token every step is a `TokenStep`: it keeps the text, the start of the trivia and of the
token, and the comments, may only add errors, and keeps the position at a boundary. Between tokens
the loop of `scan` takes `Trivia` steps, over line breaks, blanks and comments, which record
comments and mark the last one as ending its line. `scanLoop_rule` reasons about the whole loop
from these two kinds of step; its budget never runs out.
-/

namespace ParamNarrow

namespace Text

/-- A character boundary of a text: its start, its end, or an offset where a character starts. -/
def IsBoundary (text : String) (p : Nat) : Prop :=
  (String.Pos.Raw.mk p).IsValid text

theorem IsBoundary.le_size {text : String} {p : Nat} (h : IsBoundary text p) :
    p ≤ text.utf8ByteSize :=
  h.le_utf8ByteSize

theorem isBoundary_zero (text : String) : IsBoundary text 0 :=
  String.Pos.Raw.isValid_zero

theorem isBoundary_size (text : String) : IsBoundary text text.utf8ByteSize :=
  String.Pos.Raw.isValid_rawEndPos

/-- A character found at an offset starts at a boundary and ends at the next one. -/
theorem isBoundary_of_charAt? {text : String} {p : Nat} {c : Char} (h : charAt? text p = some c) :
    IsBoundary text p ∧ IsBoundary text (p + c.utf8Size) := by
  obtain ⟨q, hq, rfl, rfl⟩ := charAt?_eq_some h
  have hnext : (q.next hq).offset = ⟨q.offset.byteIdx + (q.get hq).utf8Size⟩ :=
    String.Pos.Raw.ext (String.Pos.byteIdx_offset_next q hq)
  refine ⟨q.isValid, ?_⟩
  show (String.Pos.Raw.mk _).IsValid _
  rw [← hnext]
  exact (q.next hq).isValid

theorem IsBoundary.charAt?_isSome {text : String} {p : Nat} (h : IsBoundary text p)
    (hp : p < text.utf8ByteSize) : ∃ c, charAt? text p = some c := by
  have hne : text.pos ⟨p⟩ h ≠ text.endPos := by
    intro he
    have hoff : (text.pos ⟨p⟩ h).offset.byteIdx = p := rfl
    rw [he, String.offset_endPos, String.byteIdx_rawEndPos] at hoff
    omega
  unfold charAt?
  rw [pos?_of_isValid h, Option.bind_some]
  exact ⟨_, String.Pos.get?_eq_some_get hne⟩

/-- At a boundary, no character is found only at the end of the text. -/
theorem IsBoundary.eq_size_of_charAt? {text : String} {p : Nat} (h : IsBoundary text p)
    (hn : charAt? text p = none) : p = text.utf8ByteSize := by
  rcases Nat.lt_or_ge p text.utf8ByteSize with hp | hp
  · obtain ⟨c, hc⟩ := h.charAt?_isSome hp
    rw [hc] at hn
    cases hn
  · exact Nat.le_antisymm h.le_size hp

theorem byteAt?_lt {text : String} {p : Nat} {b : UInt8} (h : byteAt? text p = some b) :
    p < text.utf8ByteSize := by
  unfold byteAt? at h
  split at h
  · assumption
  · cases h

theorem isUTF8FirstByte_of_lt {b : UInt8} (hb : b.toNat < 128) : b.IsUTF8FirstByte := by
  have hand : ∀ n, n < 128 → n &&& 128 = 0 := by decide
  left
  rw [← UInt8.toNat_inj, UInt8.toNat_and]
  exact hand _ hb

theorem isBoundary_of_byteAt? {text : String} {p : Nat} {b : UInt8} (h : byteAt? text p = some b)
    (hb : b.toNat < 128) : IsBoundary text p := by
  have hp := byteAt?_lt h
  unfold byteAt? at h
  rw [dif_pos hp, Option.some.injEq] at h
  refine String.Pos.Raw.isValid_iff_isUTF8FirstByte.2 (.inr ⟨by simpa [String.Pos.Raw.lt_iff] using hp, ?_⟩)
  rw [h]
  exact isUTF8FirstByte_of_lt hb

/-- An ASCII byte is a character of its own, so a boundary follows it. -/
theorem isBoundary_succ_of_byteAt? {text : String} {p : Nat} {b : UInt8} (h : byteAt? text p = some b)
    (hb : b.toNat < 128) : IsBoundary text (p + 1) := by
  obtain ⟨c, hc⟩ := (isBoundary_of_byteAt? h hb).charAt?_isSome (byteAt?_lt h)
  have hone := utf8Size_eq_one_of_byteAt? hc h hb
  simpa [hone] using (isBoundary_of_charAt? hc).2

theorem isBoundary_succ_of_byteIs {text : String} {p : Nat} {c : Char} (h : byteIs text p c = true)
    (hc : c.toNat < 128) : IsBoundary text (p + 1) := by
  simp only [byteIs, beq_iff_eq] at h
  refine isBoundary_succ_of_byteAt? h ?_
  simp only [Char.toUInt8, UInt32.toNat_toUInt8, Char.toNat_val]
  omega

theorem findByteFrom_spec (text : String) (pos : Nat) (p : UInt8 → Bool) :
    findByteFrom text pos p = text.utf8ByteSize ∨
      ∃ b, byteAt? text (findByteFrom text pos p) = some b ∧ p b = true := by
  unfold findByteFrom
  cases hk : (List.range (text.utf8ByteSize - pos)).find? (fun k => (byteAt? text (pos + k)).any p) with
  | none => exact .inl rfl
  | some k =>
    right
    have hany := List.find?_some hk
    simp only [Option.elim_some] at hany ⊢
    cases hb : byteAt? text (pos + k) with
    | none => simp [hb] at hany
    | some b => exact ⟨b, rfl, by simpa [hb] using hany⟩

theorem findByteFrom_le_size (text : String) (pos : Nat) (p : UInt8 → Bool) :
    findByteFrom text pos p ≤ text.utf8ByteSize := by
  rcases findByteFrom_spec text pos p with h | ⟨b, hb, -⟩
  · exact Nat.le_of_eq h
  · exact Nat.le_of_lt (byteAt?_lt hb)

theorem isBoundary_findByteFrom (text : String) (pos : Nat) {p : UInt8 → Bool}
    (hp : ∀ b, p b = true → b.toNat < 128) : IsBoundary text (findByteFrom text pos p) := by
  rcases findByteFrom_spec text pos p with h | ⟨b, hb, hpb⟩
  · rw [h]
    exact isBoundary_size text
  · exact isBoundary_of_byteAt? hb (hp b hpb)

theorem isNewlineByte_lt {b : UInt8} (h : isNewlineByte b = true) : b.toNat < 128 := by
  simp only [isNewlineByte, Bool.or_eq_true, beq_iff_eq] at h
  rcases h with rfl | rfl <;> decide

end Text

namespace Scanner

open Text

/-! ### What a step inside a token does -/

/-- What every step inside a token does: it reads on in the same text, keeps the comments, keeps
the errors recorded so far and may add to them, and stops at a character boundary when it started
at one. -/
structure TokenStep (s t : Scanner) : Prop where
  readsOn : s.ReadsOn t
  fullStart_eq : t.fullStart = s.fullStart
  comments_eq : t.comments = s.comments
  errors_prefix : s.errors.toList <+: t.errors.toList
  boundary : IsBoundary s.text s.pos → IsBoundary s.text t.pos

theorem TokenStep.refl (s : Scanner) : s.TokenStep s :=
  ⟨.refl s, rfl, rfl, List.prefix_refl _, id⟩

theorem TokenStep.trans {s t u : Scanner} (h : s.TokenStep t) (h' : t.TokenStep u) :
    s.TokenStep u where
  readsOn := h.readsOn.trans h'.readsOn
  fullStart_eq := h'.fullStart_eq.trans h.fullStart_eq
  comments_eq := h'.comments_eq.trans h.comments_eq
  errors_prefix := h.errors_prefix.trans h'.errors_prefix
  boundary hs := by
    have ht : IsBoundary t.text t.pos := by
      rw [h.readsOn.text_eq]
      exact h.boundary hs
    have hu := h'.boundary ht
    rwa [h.readsOn.text_eq] at hu

theorem TokenStep.of_pos {s t : Scanner} (htext : t.text = s.text) (hfull : t.fullStart = s.fullStart)
    (hstart : t.tokenStart = s.tokenStart) (hcomments : t.comments = s.comments)
    (herrors : t.errors = s.errors) (hle : s.pos ≤ t.pos)
    (hb : IsBoundary s.text s.pos → IsBoundary s.text t.pos) : s.TokenStep t :=
  ⟨⟨htext, hstart, hle⟩, hfull, hcomments, herrors ▸ List.prefix_refl _, hb⟩

theorem TokenStep.of_char {s t : Scanner} {c : Char} (hc : s.charAt? s.pos = some c)
    (htext : t.text = s.text) (hfull : t.fullStart = s.fullStart) (hstart : t.tokenStart = s.tokenStart)
    (hcomments : t.comments = s.comments) (herrors : t.errors = s.errors)
    (hpos : t.pos = s.pos + c.utf8Size) : s.TokenStep t :=
  .of_pos htext hfull hstart hcomments herrors (by omega) fun _ => hpos ▸ (isBoundary_of_charAt? hc).2

theorem TokenStep.of_byteIs {s t : Scanner} {c : Char} (h : s.byteIs s.pos c = true)
    (hc : c.toNat < 128) (htext : t.text = s.text) (hfull : t.fullStart = s.fullStart)
    (hstart : t.tokenStart = s.tokenStart) (hcomments : t.comments = s.comments)
    (herrors : t.errors = s.errors) (hpos : t.pos = s.pos + 1) : s.TokenStep t :=
  .of_pos htext hfull hstart hcomments herrors (by omega) fun _ => hpos ▸ isBoundary_succ_of_byteIs h hc

theorem TokenStep.addError {s t : Scanner} (h : s.TokenStep t) (pos length : Nat) (m : Message) :
    s.TokenStep (t.addError pos length m) where
  readsOn := by simpa using h.readsOn
  fullStart_eq := h.fullStart_eq
  comments_eq := h.comments_eq
  errors_prefix := by
    simpa [Scanner.addError] using h.errors_prefix.trans (List.prefix_append _ _)
  boundary := h.boundary

theorem TokenStep.of_fields {s t u : Scanner} (h : s.TokenStep t) (htext : u.text = t.text)
    (hfull : u.fullStart = t.fullStart) (hstart : u.tokenStart = t.tokenStart) (hpos : u.pos = t.pos)
    (hcomments : u.comments = t.comments) (herrors : u.errors = t.errors) : s.TokenStep u where
  readsOn := ⟨htext.trans h.readsOn.text_eq, hstart.trans h.readsOn.tokenStart_eq, hpos ▸ h.readsOn.pos_le⟩
  fullStart_eq := hfull.trans h.fullStart_eq
  comments_eq := hcomments.trans h.comments_eq
  errors_prefix := herrors ▸ h.errors_prefix
  boundary := hpos ▸ h.boundary

@[simp] theorem tokenStep_pushValue {s t : Scanner} {c : Char} :
    s.TokenStep (t.pushValue c) ↔ s.TokenStep t :=
  ⟨fun h => h.of_fields rfl rfl rfl rfl rfl rfl, fun h => h.of_fields rfl rfl rfl rfl rfl rfl⟩

@[simp] theorem tokenStep_setToken {s t : Scanner} {kind : TokenKind} :
    s.TokenStep { t with token := kind } ↔ s.TokenStep t :=
  ⟨fun h => h.of_fields rfl rfl rfl rfl rfl rfl, fun h => h.of_fields rfl rfl rfl rfl rfl rfl⟩

@[simp] theorem tokenStep_setValue {s t : Scanner} {v : String} :
    s.TokenStep { t with value := v } ↔ s.TokenStep t :=
  ⟨fun h => h.of_fields rfl rfl rfl rfl rfl rfl, fun h => h.of_fields rfl rfl rfl rfl rfl rfl⟩

/-! ### Escapes and literals -/

theorem hexDigitValue?_lt {b : UInt8} {d : Nat} (h : hexDigitValue? b = some d) : b.toNat < 128 := by
  unfold hexDigitValue? at h
  split at h
  · rename_i h1
    simp only [Bool.and_eq_true, decide_eq_true_eq, UInt8.le_iff_toNat_le, UInt8.reduceToNat] at h1
    omega
  · split at h
    · rename_i h2
      simp only [Bool.and_eq_true, decide_eq_true_eq, UInt8.le_iff_toNat_le, UInt8.reduceToNat] at h2
      omega
    · split at h
      · rename_i h3
        simp only [Bool.and_eq_true, decide_eq_true_eq, UInt8.le_iff_toNat_le, UInt8.reduceToNat] at h3
        omega
      · cases h

theorem isDigitByte_lt {b : UInt8} (h : isDigitByte b = true) : b.toNat < 128 := by
  simp only [isDigitByte, Bool.and_eq_true, decide_eq_true_eq, UInt8.le_iff_toNat_le,
    UInt8.reduceToNat] at h
  omega

theorem TokenStep.of_byteSat {s t : Scanner} {f : UInt8 → Bool} (h : s.byteSat s.pos f = true)
    (hf : ∀ b, f b = true → b.toNat < 128) (htext : t.text = s.text) (hfull : t.fullStart = s.fullStart)
    (hstart : t.tokenStart = s.tokenStart) (hcomments : t.comments = s.comments)
    (herrors : t.errors = s.errors) (hpos : t.pos = s.pos + 1) : s.TokenStep t := by
  unfold byteSat at h
  cases hb : Text.byteAt? s.text s.pos with
  | none => simp [hb] at h
  | some b =>
    rw [hb] at h
    exact .of_pos htext hfull hstart hcomments herrors (by omega)
      fun _ => hpos ▸ isBoundary_succ_of_byteAt? hb (hf b h)

theorem hexDigits_step : ∀ (n : Nat) (s : Scanner), s.TokenStep (s.hexDigits n).1
  | 0, s => .refl s
  | n + 1, s => by
    unfold hexDigits
    split
    · exact .refl s
    · rename_i d hd
      have hb : s.byteSat s.pos (fun b => (hexDigitValue? b).isSome) = true := by
        simp [byteSat, Option.bind_eq_some_iff] at hd ⊢
        obtain ⟨b, hb, hbd⟩ := hd
        simp [hb, hbd]
      refine (TokenStep.of_byteSat (t := { s with pos := s.pos + 1 }) hb ?_ rfl rfl rfl rfl rfl rfl).trans
        (hexDigits_step n { s with pos := s.pos + 1 })
      intro b hb'
      obtain ⟨d', hd'⟩ := Option.isSome_iff_exists.1 hb'
      exact hexDigitValue?_lt hd'

theorem hexEscape_step (s : Scanner) (min max : Nat) : s.TokenStep (s.hexEscape min max).1 :=
  hexDigits_step max s

theorem tokenStep_byteIs {s : Scanner} {c : Char} (h : s.byteIs s.pos c = true) (hc : c.toNat < 128) :
    s.TokenStep { s with pos := s.pos + 1 } :=
  .of_byteIs h hc rfl rfl rfl rfl rfl rfl

theorem tokenStep_char {s : Scanner} {c : Char} (hc : s.charAt? s.pos = some c) :
    s.TokenStep { s with pos := s.pos + c.utf8Size } :=
  .of_char hc rfl rfl rfl rfl rfl rfl

theorem scanEscape_step {s : Scanner} (hc : s.charAt? s.pos = some '\\') : s.TokenStep s.scanEscape := by
  have ht : s.TokenStep { s with pos := s.pos + 1 } := tokenStep_char hc
  unfold scanEscape
  extract_lets t
  split
  · exact ht
  · rename_i c hc'
    extract_lets u
    have hu : s.TokenStep u := ht.trans (tokenStep_char hc')
    split
    case h_7 => split <;> simpa using hu
    case h_8 => simpa using hu.trans (hexEscape_step u 2 2)
    case h_9 =>
      split
      · rename_i hbrace
        split
        rename_i v code heq
        have hv : s.TokenStep v := by
          have hx := hexEscape_step { u with pos := u.pos + 1 } 1 6
          rw [heq] at hx
          exact hu.trans ((tokenStep_byteIs hbrace (by decide)).trans hx)
        extract_lets w
        have hw : s.TokenStep w := by
          simp only [w]
          split
          · exact hv.trans (tokenStep_byteIs ‹_› (by decide))
          · exact hv
        simpa using hw
      · simpa using hu.trans (hexEscape_step u 4 4)
    case h_10 =>
      split
      · exact hu.trans (tokenStep_byteIs ‹_› (by decide))
      · exact hu
    all_goals simpa using hu

theorem stringBody_step {quote : Char} (hq : quote.utf8Size = 1) (start : Nat) :
    ∀ (n : Nat) (s : Scanner), s.TokenStep (stringBody quote start n s)
  | 0, s => .refl s
  | n + 1, s => by
    unfold stringBody
    split
    · exact (TokenStep.refl s).addError _ _ _
    · rename_i c hc
      split
      · rename_i hclose
        obtain rfl : c = quote := by simpa using hclose
        exact .of_char hc rfl rfl rfl rfl rfl (by rw [hq])
      · split
        · rename_i hback
          obtain rfl : c = '\\' := by simpa using hback
          exact (scanEscape_step hc).trans (stringBody_step hq start n _)
        · split
          · exact (TokenStep.refl s).addError _ _ _
          · exact (TokenStep.of_char (t := { s.pushValue c with pos := s.pos + c.utf8Size }) hc
              rfl rfl rfl rfl rfl rfl).trans (stringBody_step hq start n _)

theorem scanString_step {s : Scanner} {quote : Char} (hc : s.charAt? s.pos = some quote)
    (hq : quote.utf8Size = 1) : s.TokenStep (s.scanString quote) := by
  unfold scanString
  extract_lets start t
  have hopen : s.TokenStep { s with pos := s.pos + 1 } := .of_char hc rfl rfl rfl rfl rfl (by rw [hq])
  simpa using hopen.trans (stringBody_step hq start _ _)

theorem templateBody_step (fromBacktick : Bool) (start : Nat) :
    ∀ (n : Nat) (s : Scanner), s.TokenStep (templateBody fromBacktick start n s)
  | 0, s => .refl s
  | n + 1, s => by
    unfold templateBody
    extract_lets closed unterminated t u
    split
    · simpa using (TokenStep.refl s).addError start (s.pos - start) .unterminatedTemplate
    · rename_i c hc
      split
      · rename_i htick
        obtain rfl : c = '`' := by simpa using htick
        exact .of_char hc rfl rfl rfl rfl rfl rfl
      · split
        · rename_i hdollar
          obtain ⟨hc', hbrace⟩ := Bool.and_eq_true_iff.1 hdollar
          obtain rfl : c = '$' := by simpa using hc'
          exact (tokenStep_char hc).trans (.of_byteIs hbrace (by decide) rfl rfl rfl rfl rfl rfl)
        · split
          · rename_i hback
            obtain rfl : c = '\\' := by simpa using hback
            exact (scanEscape_step hc).trans (templateBody_step fromBacktick start n _)
          · split
            · rename_i hcr
              obtain rfl : c = '\r' := by simpa using hcr
              have hu : s.TokenStep u := by
                simp only [u]
                split
                · exact (tokenStep_char hc).trans (tokenStep_byteIs ‹_› (by decide))
                · exact tokenStep_char hc
              have hu' : s.TokenStep (u.pushValue '\n') := by simpa using hu
              exact hu'.trans (templateBody_step fromBacktick start n _)
            · exact (TokenStep.of_char (t := { s.pushValue c with pos := s.pos + c.utf8Size }) hc
                rfl rfl rfl rfl rfl rfl).trans (templateBody_step fromBacktick start n _)

theorem scanTemplate_step (s : Scanner) (fromBacktick : Bool) :
    s.TokenStep (s.scanTemplate fromBacktick) :=
  templateBody_step fromBacktick s.tokenStart _ s

theorem regexBody_step (start : Nat) :
    ∀ (n : Nat) (inClass : Bool) (s : Scanner), s.TokenStep (regexBody start n inClass s)
  | 0, _, s => .refl s
  | n + 1, inClass, s => by
    unfold regexBody
    split
    · exact (TokenStep.refl s).addError _ _ _
    · rename_i c hc
      split
      · exact (TokenStep.refl s).addError _ _ _
      · extract_lets t
        have ht : s.TokenStep t := tokenStep_char hc
        split
        · split
          · rename_i e he
            split
            · exact ht.trans (regexBody_step start n inClass t)
            · exact (ht.trans (tokenStep_char he)).trans (regexBody_step start n inClass _)
          · exact ht.trans (regexBody_step start n inClass t)
        · split
          · exact ht.trans (regexBody_step start n true t)
          · split
            · exact ht.trans (regexBody_step start n false t)
            · split
              · exact ht
              · exact ht.trans (regexBody_step start n inClass t)

/-! ### Numbers and identifiers -/

theorem skipDecimalDigits_step : ∀ (s : Scanner) (n : Nat), s.TokenStep (s.skipDecimalDigits n)
  | s, 0 => .refl s
  | s, n + 1 => by
    unfold skipDecimalDigits
    split
    · rename_i h
      refine (TokenStep.of_byteSat (t := { s with pos := s.pos + 1 }) h ?_ rfl rfl rfl rfl rfl rfl).trans
        (skipDecimalDigits_step _ n)
      intro b hb
      rcases Bool.or_eq_true_iff.1 hb with hd | hu
      · exact isDigitByte_lt hd
      · simp only [beq_iff_eq] at hu
        subst hu
        decide
    · exact .refl s

theorem skipHexDigits_step : ∀ (s : Scanner) (n : Nat), s.TokenStep (s.skipHexDigits n)
  | s, 0 => .refl s
  | s, n + 1 => by
    unfold skipHexDigits
    split
    · rename_i h
      refine (TokenStep.of_byteSat (t := { s with pos := s.pos + 1 }) h ?_ rfl rfl rfl rfl rfl rfl).trans
        (skipHexDigits_step _ n)
      intro b hb
      rcases Bool.or_eq_true_iff.1 hb with hd | hu
      · obtain ⟨d, hd'⟩ := Option.isSome_iff_exists.1 hd
        exact hexDigitValue?_lt hd'
      · simp only [beq_iff_eq] at hu
        subst hu
        decide
    · exact .refl s

theorem TokenStep.of_byteSat_at {s : Scanner} {p : Nat} {f : UInt8 → Bool} (h : s.byteSat p f = true)
    (hf : ∀ b, f b = true → b.toNat < 128) (hle : s.pos ≤ p) : s.TokenStep { s with pos := p } := by
  unfold byteSat at h
  cases hb : Text.byteAt? s.text p with
  | none => simp [hb] at h
  | some b =>
    rw [hb] at h
    exact .of_pos rfl rfl rfl rfl rfl hle fun _ => isBoundary_of_byteAt? hb (hf b h)

theorem scanNumber_step (s : Scanner) : s.TokenStep s.scanNumber := by
  unfold scanNumber
  extract_lets start budget radix d frac exp digits
  have hfrac : s.TokenStep frac := by
    have hd : s.TokenStep d := skipDecimalDigits_step s budget
    simp only [frac]
    split
    · exact hd.trans ((tokenStep_byteIs ‹_› (by decide)).trans (skipDecimalDigits_step _ budget))
    · exact hd
  have hdigits : s.TokenStep digits := by
    simp only [digits]
    split
    · rename_i hradix
      obtain ⟨hzero, hletter⟩ := Bool.and_eq_true_iff.1 hradix
      have hprefix : s.TokenStep { s with pos := s.pos + 2 } :=
        (tokenStep_byteIs hzero (by decide)).trans
          (TokenStep.of_byteSat (s := { s with pos := s.pos + 1 }) (t := { s with pos := s.pos + 2 })
            hletter (fun b hb => by
              simp only [Bool.or_eq_true, beq_iff_eq] at hb
              rcases hb with (((((rfl | rfl) | rfl) | rfl) | rfl) | rfl) <;> decide)
            rfl rfl rfl rfl rfl rfl)
      exact hprefix.trans (skipHexDigits_step _ budget)
    · split
      · split
        · rename_i hexp
          have hle : frac.pos ≤ exp := by simp only [exp]; split <;> omega
          exact (hfrac.trans (TokenStep.of_byteSat_at hexp (fun _ => isDigitByte_lt) hle)).trans
            (skipDecimalDigits_step _ budget)
        · exact hfrac
      · exact hfrac
  split
  · rename_i u kind heq
    split at heq
    · cases heq
      exact (hdigits.trans (tokenStep_byteIs ‹_› (by decide))).of_fields rfl rfl rfl rfl rfl rfl
    · cases heq
      exact hdigits.of_fields rfl rfl rfl rfl rfl rfl

theorem skipIdentifierParts_step : ∀ (s : Scanner) (n : Nat), s.TokenStep (s.skipIdentifierParts n)
  | s, 0 => .refl s
  | s, n + 1 => by
    unfold skipIdentifierParts
    split
    · rename_i c hc
      split
      · exact (tokenStep_char hc).trans (skipIdentifierParts_step _ n)
      · exact .refl s
    · exact .refl s

theorem scanIdentifier_step (s : Scanner) : s.TokenStep s.scanIdentifier := by
  unfold scanIdentifier
  extract_lets start t word
  exact (skipIdentifierParts_step s _).of_fields rfl rfl rfl rfl rfl rfl

/-! ### Tokens -/

theorem scanPunctuation_step {s : Scanner} {c : Char} (hc : s.charAt? s.pos = some c) :
    s.TokenStep (s.scanPunctuation c) := by
  have f1 : c.toNat < 128 → ∀ kind, s.TokenStep (s.finish 1 kind) := by
    intro hlt kind
    have hone : c.utf8Size = 1 :=
      Char.utf8Size_eq_one_iff.2 (by simp [UInt32.le_iff_toNat_le]; omega)
    exact .of_char hc rfl rfl rfl rfl rfl (by rw [hone]; rfl)
  have f2 : ∀ x, s.byteIs (s.pos + 1) x = true → x.toNat < 128 → ∀ kind, s.TokenStep (s.finish 2 kind) :=
    fun x h hx kind =>
      .of_pos rfl rfl rfl rfl rfl (Nat.le_add_right _ _) fun _ => isBoundary_succ_of_byteIs h hx
  have f3 : ∀ x, s.byteIs (s.pos + 2) x = true → x.toNat < 128 → ∀ kind, s.TokenStep (s.finish 3 kind) :=
    fun x h hx kind =>
      .of_pos rfl rfl rfl rfl rfl (Nat.le_add_right _ _) fun _ => isBoundary_succ_of_byteIs h hx
  unfold scanPunctuation
  dsimp only
  split
  case h_27 =>
    split
    · exact scanIdentifier_step s
    · exact (tokenStep_char hc).of_fields rfl rfl rfl rfl rfl rfl
  all_goals repeat' split
  all_goals first
    | exact f1 (by decide) _
    | exact f2 _ ‹_› (by decide) _
    | exact f3 _ (Bool.and_eq_true_iff.1 ‹_›).2 (by decide) _

theorem scanAt_step {s : Scanner} {c : Char} (hc : s.charAt? s.pos = some c) :
    s.TokenStep (s.scanAt c) := by
  unfold scanAt
  split
  · rename_i hquote
    have hq : c.utf8Size = 1 := by
      rcases Bool.or_eq_true_iff.1 hquote with h | h <;>
      · obtain rfl := beq_iff_eq.1 h
        rfl
    exact scanString_step hc hq
  · split
    · rename_i htick
      obtain rfl : c = '`' := beq_iff_eq.1 htick
      exact (tokenStep_char hc).trans (scanTemplate_step _ true)
    · split
      · exact scanNumber_step s
      · exact scanPunctuation_step hc

/-! ### Trivia and the loop of `scan` -/

/-- The closing `*/` found for a block comment lies at or after where the search started. -/
theorem findCommentClose_spec {text : String} {p close : Nat} (h : findCommentClose text p = some close) :
    p ≤ close ∧ Text.byteIs text (close + 1) '/' = true := by
  unfold findCommentClose at h
  obtain ⟨k, hk, rfl⟩ := Option.map_eq_some_iff.1 h
  have hfound := List.find?_some hk
  simp only [Bool.and_eq_true] at hfound
  exact ⟨Nat.le_add_right _ _, hfound.2⟩

theorem recordComment_pos (s : Scanner) (start : Nat) (multiLine : Bool) :
    (s.recordComment start multiLine).pos = s.pos := by
  unfold recordComment
  split
  · split <;> rfl
  · rfl

theorem markLineEnd_pos (s : Scanner) : s.markLineEnd.pos = s.pos := by
  unfold markLineEnd
  split
  · split <;> rfl
  · rfl

theorem skipLineComment_pos (s : Scanner) :
    s.skipLineComment.pos = Text.findByteFrom s.text s.pos Text.isNewlineByte := by
  unfold skipLineComment
  exact recordComment_pos _ _ _

theorem skipBlockComment_pos (s : Scanner) :
    s.skipBlockComment.pos = ((findCommentClose s.text (s.pos + 2)).map (· + 2)).getD s.size := by
  unfold skipBlockComment
  cases h : findCommentClose s.text (s.pos + 2) <;> simp [h, recordComment_pos]

theorem recordComment_fullStart (s : Scanner) (start : Nat) (multiLine : Bool) :
    (s.recordComment start multiLine).fullStart = s.fullStart := by
  unfold recordComment
  split
  · split <;> rfl
  · rfl

theorem recordComment_errors (s : Scanner) (start : Nat) (multiLine : Bool) :
    (s.recordComment start multiLine).errors = s.errors := by
  unfold recordComment
  split
  · split <;> rfl
  · rfl

theorem recordComment_comments (s : Scanner) (start : Nat) (multiLine : Bool) :
    (s.recordComment start multiLine).comments = s.comments ∨
      (s.recordComment start multiLine).comments = s.comments.push ⟨start, s.pos, multiLine, false⟩ := by
  unfold recordComment
  split
  · split
    · exact .inl rfl
    · exact .inr rfl
  · exact .inr rfl

theorem markLineEnd_fullStart (s : Scanner) : s.markLineEnd.fullStart = s.fullStart := by
  unfold markLineEnd
  split
  · split <;> rfl
  · rfl

theorem markLineEnd_errors (s : Scanner) : s.markLineEnd.errors = s.errors := by
  unfold markLineEnd
  split
  · split <;> rfl
  · rfl

theorem skipBlockComment_fullStart (s : Scanner) : s.skipBlockComment.fullStart = s.fullStart := by
  unfold skipBlockComment
  cases h : findCommentClose s.text (s.pos + 2) <;> simp [h, recordComment_fullStart] <;> split <;> rfl

theorem skipBlockComment_comments (s : Scanner) :
    s.skipBlockComment.comments = s.comments ∨
      s.skipBlockComment.comments = s.comments.push ⟨s.pos, s.skipBlockComment.pos, true, false⟩ := by
  unfold skipBlockComment
  cases h : findCommentClose s.text (s.pos + 2) <;> simp only [h] <;> split <;>
    rw [recordComment_pos] <;> exact recordComment_comments _ _ _

theorem skipBlockComment_errors_prefix (s : Scanner) :
    s.errors.toList <+: s.skipBlockComment.errors.toList := by
  unfold skipBlockComment
  cases h : findCommentClose s.text (s.pos + 2) <;> simp only [h] <;> split <;>
    simp [recordComment_errors, Scanner.addError]

/-- One round of the loop of `scan` that skips trivia at the position, from the scanner whose
token start was set there: a line break, a blank, a line comment or a block comment. -/
inductive Trivia : Scanner → Scanner → Prop
  | lineBreak {u : Scanner} {c : Char} : u.charAt? u.pos = some c → isLineBreak c = true →
      Trivia u { u.markLineEnd with lineBreakBefore := true, pos := u.pos + c.utf8Size }
  | blank {u : Scanner} {c : Char} : u.charAt? u.pos = some c → isBlank c = true →
      Trivia u { u with pos := u.pos + c.utf8Size }
  | lineComment {u : Scanner} : u.charAt? u.pos = some '/' → u.byteIs (u.pos + 1) '/' = true →
      Trivia u u.skipLineComment
  | blockComment {u : Scanner} : u.charAt? u.pos = some '/' → u.byteIs (u.pos + 1) '*' = true →
      Trivia u u.skipBlockComment

/-- One round of the loop: the end of the file where no character is found, a step over trivia,
or the token that starts at the character found. -/
theorem scanLoop_succ (n : Nat) (s : Scanner) :
    (s.charAt? s.pos = none ∧
        scanLoop (n + 1) s = { s with tokenStart := s.pos, token := .endOfFileToken }) ∨
      (∃ v, Trivia { s with tokenStart := s.pos } v ∧ scanLoop (n + 1) s = scanLoop n v) ∨
      (∃ c, s.charAt? s.pos = some c ∧ isLineBreak c = false ∧ isBlank c = false ∧
        (c == '/' && s.byteIs (s.pos + 1) '/') = false ∧ (c == '/' && s.byteIs (s.pos + 1) '*') = false ∧
        scanLoop (n + 1) s = { s with tokenStart := s.pos }.scanAt c) := by
  rw [scanLoop]
  split
  · rename_i hnone
    exact .inl ⟨hnone, rfl⟩
  · rename_i c hc
    split
    · exact .inr (.inl ⟨_, .lineBreak hc ‹_›, rfl⟩)
    · split
      · exact .inr (.inl ⟨_, .blank hc ‹_›, rfl⟩)
      · split
        · rename_i hline
          obtain ⟨hslash, hnext⟩ := Bool.and_eq_true_iff.1 hline
          obtain rfl : c = '/' := beq_iff_eq.1 hslash
          exact .inr (.inl ⟨_, .lineComment hc hnext, rfl⟩)
        · split
          · rename_i hblock
            obtain ⟨hslash, hnext⟩ := Bool.and_eq_true_iff.1 hblock
            obtain rfl : c = '/' := beq_iff_eq.1 hslash
            exact .inr (.inl ⟨_, .blockComment hc hnext, rfl⟩)
          · rename_i hline hblank hnotline hnotblock
            exact .inr (.inr ⟨c, hc, Bool.eq_false_iff.2 hline, Bool.eq_false_iff.2 hblank,
              Bool.eq_false_iff.2 hnotline, Bool.eq_false_iff.2 hnotblock, rfl⟩)

theorem scanLoop_at_token {s : Scanner} {c : Char} (n : Nat) (hc : Text.charAt? s.text s.pos = some c)
    (hline : isLineBreak c = false) (hblank : isBlank c = false) (hslash : c ≠ '/') :
    scanLoop (n + 1) s = { s with tokenStart := s.pos }.scanAt c := by
  simp [scanLoop, charAt?, hc, hline, hblank, hslash]

theorem scan_at_end {s : Scanner} (h : Text.charAt? s.text s.pos = none) :
    s.scan =
      { s with
        fullStart := s.pos
        tokenStart := s.pos
        lineBreakBefore := false
        value := ""
        token := .endOfFileToken } := by
  simp [scan, scanLoop, charAt?, h]

theorem scanAt_from {u : Scanner} {c : Char} (hc : u.charAt? u.pos = some c) :
    ({ u with tokenStart := u.pos }.scanAt c).tokenStart = u.pos ∧
      u.pos < ({ u with tokenStart := u.pos }.scanAt c).pos :=
  ⟨(scanAt_step (s := { u with tokenStart := u.pos }) hc).readsOn.tokenStart_eq,
    (scanAt_advances (s := { u with tokenStart := u.pos }) hc).2⟩

theorem Trivia.text_eq {u v : Scanner} (h : Trivia u v) : v.text = u.text := by
  cases h with
  | lineBreak => exact (markLineEnd_readsOn u).text_eq
  | blank => rfl
  | lineComment hc => exact (skipLineComment_advances hc).1.text_eq
  | blockComment hc => exact (skipBlockComment_advances (Text.charAt?_lt hc)).1.text_eq

theorem Trivia.pos_lt {u v : Scanner} (h : Trivia u v) : u.pos < v.pos := by
  cases h with
  | lineBreak => exact Nat.lt_add_of_pos_right (Char.utf8Size_pos _)
  | blank => exact Nat.lt_add_of_pos_right (Char.utf8Size_pos _)
  | lineComment hc => exact (skipLineComment_advances hc).2
  | blockComment hc => exact (skipBlockComment_advances (Text.charAt?_lt hc)).2

theorem Trivia.boundary {u v : Scanner} (h : Trivia u v) : IsBoundary u.text v.pos := by
  cases h with
  | lineBreak hc => exact (isBoundary_of_charAt? hc).2
  | blank hc => exact (isBoundary_of_charAt? hc).2
  | lineComment =>
    rw [skipLineComment_pos]
    exact isBoundary_findByteFrom _ _ fun _ => isNewlineByte_lt
  | blockComment =>
    rw [skipBlockComment_pos]
    cases hclose : findCommentClose u.text (u.pos + 2) with
    | none => exact isBoundary_size _
    | some close => exact isBoundary_succ_of_byteIs (findCommentClose_spec hclose).2 (by decide)

theorem Trivia.fullStart_eq {u v : Scanner} (h : Trivia u v) : v.fullStart = u.fullStart := by
  cases h with
  | lineBreak => exact markLineEnd_fullStart u
  | blank => rfl
  | lineComment => exact recordComment_fullStart _ _ _
  | blockComment => exact skipBlockComment_fullStart u

theorem Trivia.comments {u v : Scanner} (h : Trivia u v) :
    v.comments = u.markLineEnd.comments ∨ v.comments = u.comments ∨
      (∃ multiLine, v.comments = u.comments.push ⟨u.pos, v.pos, multiLine, false⟩) ∧
        u.charAt? u.pos = some '/' ∧
        (u.byteIs (u.pos + 1) '/' = true ∨ u.byteIs (u.pos + 1) '*' = true) := by
  cases h with
  | lineBreak => exact .inl rfl
  | blank => exact .inr (.inl rfl)
  | lineComment hc hnext =>
    unfold skipLineComment
    rcases recordComment_comments { u with pos := Text.findByteFrom u.text u.pos Text.isNewlineByte }
      u.pos false with h | h
    · exact .inr (.inl h)
    · exact .inr (.inr ⟨⟨false, by rw [h, recordComment_pos]⟩, hc, .inl hnext⟩)
  | blockComment hc hnext =>
    rcases skipBlockComment_comments u with h | h
    · exact .inr (.inl h)
    · exact .inr (.inr ⟨⟨true, h⟩, hc, .inr hnext⟩)

theorem Trivia.token_eq {u v : Scanner} (h : Trivia u v) : v.token = u.token := by
  cases h with
  | lineBreak => exact markLineEnd_token u
  | blank => rfl
  | lineComment => exact skipLineComment_token u
  | blockComment => exact skipBlockComment_token u

theorem Trivia.errors_prefix {u v : Scanner} (h : Trivia u v) : u.errors.toList <+: v.errors.toList := by
  cases h with
  | lineBreak => exact markLineEnd_errors u ▸ List.prefix_refl _
  | blank => exact List.prefix_refl _
  | lineComment =>
    have herrors : u.skipLineComment.errors = u.errors := recordComment_errors _ _ _
    exact herrors ▸ List.prefix_refl _
  | blockComment => exact skipBlockComment_errors_prefix u

theorem Trivia.charAt?_ne_none {u v : Scanner} (h : Trivia u v) : u.charAt? u.pos ≠ none := by
  cases h <;> rename_i hc _ <;> simp [hc]

/-- A rule for the loop of `scan`: a property kept by every step over trivia, that gives the
wanted one at the end of the file and at the token read, holds of the loop's result. The loop's
budget never runs out: every step over trivia moves on inside the text. -/
theorem scanLoop_rule (P Q : Scanner → Prop)
    (htrivia : ∀ u v, P u → Trivia { u with tokenStart := u.pos } v → P v)
    (heof : ∀ u, P u → u.charAt? u.pos = none →
      Q { u with tokenStart := u.pos, token := .endOfFileToken })
    (htoken : ∀ u c, P u → u.charAt? u.pos = some c → isLineBreak c = false → isBlank c = false →
      (c == '/' && u.byteIs (u.pos + 1) '/') = false → (c == '/' && u.byteIs (u.pos + 1) '*') = false →
      Q ({ u with tokenStart := u.pos }.scanAt c)) :
    ∀ (n : Nat) (u : Scanner), P u → u.size - u.pos < n → Q (scanLoop n u)
  | 0, _, _, hn => absurd hn (Nat.not_lt_zero _)
  | n + 1, u, hu, hn => by
    rcases scanLoop_succ n u with ⟨hnone, heq⟩ | ⟨v, hv, heq⟩ | ⟨c, hc, hl, hb, h1, h2, heq⟩
    · rw [heq]
      exact heof u hu hnone
    · rw [heq]
      refine scanLoop_rule P Q htrivia heof htoken n v (htrivia u v hu hv) ?_
      -- the step moves on inside the text, so fewer bytes are left than rounds
      have hlt : u.pos < v.pos := hv.pos_lt
      have hle : v.pos ≤ u.size := hv.boundary.le_size
      have hsize : v.size = u.size := congrArg String.utf8ByteSize hv.text_eq
      rw [hsize]
      omega
    · rw [heq]
      exact htoken u c hu hc hl hb h1 h2

end Scanner

end ParamNarrow
