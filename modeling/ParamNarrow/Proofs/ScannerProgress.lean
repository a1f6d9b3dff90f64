import ParamNarrow.Token.Scanner
/-!
# The scanner moves forward

Every step of the scanner keeps its text and never moves back, and every token it reads, but the
end of the file, starts inside the text and spans at least one byte: `Scanner.Valid`, which `scan`
and the three rescans keep (`scan_valid`, `rescanGreater_valid`, `rescanSlash_valid`,
`rescanTemplate_valid`). A parser that consumes a token therefore moves its token start forward
and leaves fewer bytes ahead of it, and that is what bounds the loops and the recursion of the
grammar.

One fact about UTF-8 text carries the numbers: an ASCII character found at an offset is the byte
there, so the byte tests of the number scanner agree with the character that chose it.
-/

namespace ParamNarrow

namespace Text

theorem charAt?_eq_some {text : String} {p : Nat} {c : Char} (h : charAt? text p = some c) :
    ∃ (q : text.Pos) (hq : q ≠ text.endPos), q.offset.byteIdx = p ∧ q.get hq = c := by
  unfold charAt? String.pos? String.Slice.pos? at h
  split at h
  · simp only [Option.map_some, Option.bind_some, String.Pos.get?_eq_dif] at h
    split at h
    · cases h
    · rename_i hne
      exact ⟨_, hne, rfl, Option.some.inj h⟩
  · simp at h

theorem charAt?_lt {text : String} {p : Nat} {c : Char} (h : charAt? text p = some c) :
    p < text.utf8ByteSize := by
  obtain ⟨q, hq, rfl, rfl⟩ := charAt?_eq_some h
  exact String.Pos.byteIdx_lt_utf8ByteSize q hq

theorem byteAt?_of_charAt? {text : String} {p : Nat} {c : Char} (h : charAt? text p = some c)
    (hc : c.utf8Size = 1) : byteAt? text p = some c.val.toUInt8 := by
  obtain ⟨q, hq, rfl, rfl⟩ := charAt?_eq_some h
  have hlt := String.Pos.byteIdx_lt_utf8ByteSize q hq
  have henc := String.Slice.Pos.utf8Encode_get_eq_extract q.toSlice (by simpa using hq)
  simp only [byteAt?, hlt, dif_pos, Option.some.injEq]
  simp only [String.Pos.get_toSlice, String.str_toSlice, String.startInclusive_toSlice,
    String.offset_startPos, String.Pos.Raw.byteIdx_zero, Nat.zero_add, hc,
    String.Pos.offset_toSlice, List.utf8Encode_singleton,
    String.utf8EncodeChar_eq_singleton hc] at henc
  rw [ByteArray.extract_add_one (by simp only [String.size_toByteArray]; omega)] at henc
  have hbyte : (q.get hq).toUInt8 = text.toByteArray[q.offset.byteIdx] := by
    simpa using congrArg (fun b : ByteArray => b[0]!) henc
  rw [String.getUTF8Byte_eq_getElem]
  exact hbyte.symm

theorem findByteFrom_ge {text : String} {pos : Nat} {p : UInt8 → Bool}
    (h : pos ≤ text.utf8ByteSize) : pos ≤ findByteFrom text pos p := by
  unfold findByteFrom
  cases (List.range (text.utf8ByteSize - pos)).find? (fun k => (byteAt? text (pos + k)).any p) with
  | none => simpa using h
  | some k => simp

theorem findByteFrom_gt {text : String} {pos : Nat} {p : UInt8 → Bool}
    (h : pos < text.utf8ByteSize) (hb : (byteAt? text pos).any p = false) :
    pos < findByteFrom text pos p := by
  unfold findByteFrom
  cases hk : (List.range (text.utf8ByteSize - pos)).find?
      (fun k => (byteAt? text (pos + k)).any p) with
  | none => simpa using h
  | some k =>
    have hkp := List.find?_some hk
    have hk0 : k ≠ 0 := by
      rintro rfl
      simp_all
    simp only [Option.elim_some]
    omega

end Text

namespace Scanner

/-- The end of the file, when it is the current token, was read where no character starts. -/
def EofAtEnd (s : Scanner) : Prop :=
  s.token = .endOfFileToken → s.charAt? s.pos = none

/-- Every token but the end of the file starts inside the text and ends after its start; the end
of the file is read only where no character starts. -/
structure Valid (s : Scanner) : Prop where
  tokenStart_le_pos : s.tokenStart ≤ s.pos
  tokenStart_lt_pos : s.token ≠ .endOfFileToken → s.tokenStart < s.pos
  tokenStart_lt_size : s.token ≠ .endOfFileToken → s.tokenStart < s.size
  eofAtEnd : s.EofAtEnd

/-- `t` reads on from `s`: the same text and token start, and a position no earlier. -/
structure ReadsOn (s t : Scanner) : Prop where
  text_eq : t.text = s.text
  tokenStart_eq : t.tokenStart = s.tokenStart
  pos_le : s.pos ≤ t.pos

theorem ReadsOn.refl (s : Scanner) : s.ReadsOn s :=
  ⟨rfl, rfl, Nat.le_refl _⟩

theorem ReadsOn.trans {s t u : Scanner} (h : s.ReadsOn t) (h' : t.ReadsOn u) : s.ReadsOn u :=
  ⟨h'.text_eq.trans h.text_eq, h'.tokenStart_eq.trans h.tokenStart_eq,
    Nat.le_trans h.pos_le h'.pos_le⟩

@[simp] theorem readsOn_pushValue {s t : Scanner} {c : Char} :
    s.ReadsOn (t.pushValue c) ↔ s.ReadsOn t :=
  ⟨fun h => ⟨h.text_eq, h.tokenStart_eq, h.pos_le⟩, fun h => ⟨h.text_eq, h.tokenStart_eq, h.pos_le⟩⟩

@[simp] theorem readsOn_addError {s t : Scanner} {pos length : Nat} {m : Message} :
    s.ReadsOn (t.addError pos length m) ↔ s.ReadsOn t :=
  ⟨fun h => ⟨h.text_eq, h.tokenStart_eq, h.pos_le⟩, fun h => ⟨h.text_eq, h.tokenStart_eq, h.pos_le⟩⟩

theorem readsOn_advance (s : Scanner) (k : Nat) : s.ReadsOn { s with pos := s.pos + k } :=
  ⟨rfl, rfl, Nat.le_add_right _ _⟩

theorem readsOn_setPos (s : Scanner) {p : Nat} (h : s.pos ≤ p) : s.ReadsOn { s with pos := p } :=
  ⟨rfl, rfl, h⟩

/-! ### The steps inside a token -/

theorem recordComment_readsOn (s : Scanner) (start : Nat) (multiLine : Bool) :
    s.ReadsOn (s.recordComment start multiLine) := by
  unfold recordComment
  split
  · split
    · exact .refl s
    · exact ⟨rfl, rfl, Nat.le_refl _⟩
  · exact ⟨rfl, rfl, Nat.le_refl _⟩

theorem markLineEnd_readsOn (s : Scanner) : s.ReadsOn s.markLineEnd := by
  unfold markLineEnd
  split
  · split
    · exact ⟨rfl, rfl, Nat.le_refl _⟩
    · exact .refl s
  · exact .refl s

theorem hexDigits_readsOn : ∀ (s : Scanner) (n : Nat), s.ReadsOn (s.hexDigits n).1
  | s, 0 => .refl s
  | s, n + 1 => by
    unfold hexDigits
    split
    · exact .refl s
    · exact (s.readsOn_advance 1).trans (hexDigits_readsOn { s with pos := s.pos + 1 } n)

theorem hexEscape_readsOn (s : Scanner) (min max : Nat) : s.ReadsOn (s.hexEscape min max).1 :=
  hexDigits_readsOn s max

theorem scanEscape_readsOn (s : Scanner) : s.ReadsOn s.scanEscape := by
  unfold scanEscape
  extract_lets t
  split
  · exact s.readsOn_advance 1
  · rename_i c hc
    extract_lets u
    have hu : s.ReadsOn u := (s.readsOn_advance 1).trans (t.readsOn_advance c.utf8Size)
    split
    case h_7 => split <;> simpa using hu
    case h_8 => simpa using hu.trans (hexEscape_readsOn u 2 2)
    case h_9 =>
      split
      · split
        rename_i v code heq
        have hv : s.ReadsOn v := by
          have hx := hexEscape_readsOn { u with pos := u.pos + 1 } 1 6
          rw [heq] at hx
          exact hu.trans ((u.readsOn_advance 1).trans hx)
        extract_lets w
        have hw : s.ReadsOn w := by
          simp only [w]
          split
          · exact hv.trans (v.readsOn_advance 1)
          · exact hv
        simpa using hw
      · simpa using hu.trans (hexEscape_readsOn u 4 4)
    case h_10 =>
      split
      · exact hu.trans (u.readsOn_advance 1)
      · exact hu
    all_goals simpa using hu

theorem stringBody_readsOn (quote : Char) (start : Nat) :
    ∀ (n : Nat) (s : Scanner), s.ReadsOn (stringBody quote start n s)
  | 0, s => .refl s
  | n + 1, s => by
    unfold stringBody
    split
    · simpa using ReadsOn.refl s
    · rename_i c hc
      split
      · exact s.readsOn_advance 1
      · split
        · exact (scanEscape_readsOn s).trans (stringBody_readsOn quote start n _)
        · split
          · simpa using ReadsOn.refl s
          · refine ReadsOn.trans ?_ (stringBody_readsOn quote start n _)
            exact ⟨rfl, rfl, Nat.le_add_right _ c.utf8Size⟩

theorem templateBody_readsOn (fromBacktick : Bool) (start : Nat) :
    ∀ (n : Nat) (s : Scanner), s.ReadsOn (templateBody fromBacktick start n s)
  | 0, s => .refl s
  | n + 1, s => by
    unfold templateBody
    extract_lets closed unterminated t u
    split
    · exact ⟨rfl, rfl, Nat.le_refl _⟩
    · rename_i c hc
      split
      · exact ⟨rfl, rfl, Nat.le_add_right _ 1⟩
      · split
        · exact ⟨rfl, rfl, Nat.le_add_right _ 2⟩
        · split
          · exact (scanEscape_readsOn s).trans (templateBody_readsOn fromBacktick start n _)
          · split
            · have hu : s.ReadsOn u := by
                simp only [u]
                split
                · exact (s.readsOn_advance 1).trans (t.readsOn_advance 1)
                · exact s.readsOn_advance 1
              refine ReadsOn.trans ?_ (templateBody_readsOn fromBacktick start n _)
              simpa using hu
            · refine ReadsOn.trans ?_ (templateBody_readsOn fromBacktick start n _)
              exact ⟨rfl, rfl, Nat.le_add_right _ c.utf8Size⟩

theorem skipDecimalDigits_readsOn : ∀ (s : Scanner) (n : Nat), s.ReadsOn (s.skipDecimalDigits n)
  | s, 0 => .refl s
  | s, n + 1 => by
    unfold skipDecimalDigits
    split
    · exact (s.readsOn_advance 1).trans (skipDecimalDigits_readsOn { s with pos := s.pos + 1 } n)
    · exact .refl s

theorem skipDecimalDigits_advances {s : Scanner} (n : Nat)
    (h : s.byteSat s.pos (fun b => isDigitByte b || b == 95) = true) :
    s.pos < (s.skipDecimalDigits (n + 1)).pos := by
  unfold skipDecimalDigits
  rw [if_pos h]
  exact Nat.lt_of_succ_le (skipDecimalDigits_readsOn { s with pos := s.pos + 1 } n).pos_le

theorem skipHexDigits_readsOn : ∀ (s : Scanner) (n : Nat), s.ReadsOn (s.skipHexDigits n)
  | s, 0 => .refl s
  | s, n + 1 => by
    unfold skipHexDigits
    split
    · exact (s.readsOn_advance 1).trans (skipHexDigits_readsOn { s with pos := s.pos + 1 } n)
    · exact .refl s

theorem byteSat_of_byteIs {s : Scanner} {p : Nat} {c : Char} (f : UInt8 → Bool)
    (h : s.byteIs p c = true) : s.byteSat p f = f c.toUInt8 := by
  unfold byteIs Text.byteIs at h
  unfold byteSat
  cases hb : Text.byteAt? s.text p with
  | none => simp [hb] at h
  | some b =>
    simp only [hb, Option.some_beq_some, beq_iff_eq] at h
    simp [h]

theorem byteSat_mono {s : Scanner} {p : Nat} {f g : UInt8 → Bool}
    (hfg : ∀ b, f b = true → g b = true) (h : s.byteSat p f = true) : s.byteSat p g = true := by
  unfold byteSat at *
  cases hb : Text.byteAt? s.text p with
  | none => simp [hb] at h
  | some b =>
    simp only [hb, Option.any_some] at h ⊢
    exact hfg b h

theorem scanNumber_advances (s : Scanner)
    (hstart : s.byteSat s.pos isDigitByte = true ∨ s.byteIs s.pos '.' = true) :
    s.ReadsOn s.scanNumber ∧ s.pos < s.scanNumber.pos := by
  unfold scanNumber
  extract_lets start budget radix d frac exp digits
  have hd : s.ReadsOn d := skipDecimalDigits_readsOn s budget
  have hfrac : s.ReadsOn frac ∧ s.pos < frac.pos := by
    simp only [frac]
    have hpoint := skipDecimalDigits_readsOn { d with pos := d.pos + 1 } budget
    have hpoint_pos : d.pos + 1 ≤ (skipDecimalDigits { d with pos := d.pos + 1 } budget).pos :=
      hpoint.pos_le
    rcases hstart with hdigit | hdot
    · have hlt : s.pos < d.pos :=
        skipDecimalDigits_advances _ (byteSat_mono (fun b hb => by simp [hb]) hdigit)
      split
      · exact ⟨hd.trans ((d.readsOn_advance 1).trans hpoint), by omega⟩
      · exact ⟨hd, hlt⟩
    · have hsame : d = s := by
        simp only [d, budget]
        unfold skipDecimalDigits
        rw [if_neg (by rw [byteSat_of_byteIs _ hdot]; decide)]
      have hdot' : d.byteIs d.pos '.' = true := hsame ▸ hdot
      have hdpos : d.pos = s.pos := by rw [hsame]
      rw [if_pos hdot']
      exact ⟨hd.trans ((d.readsOn_advance 1).trans hpoint), by omega⟩
  have hdigits : s.ReadsOn digits ∧ s.pos < digits.pos := by
    simp only [digits]
    split
    · have hhex := skipHexDigits_readsOn { s with pos := s.pos + 2 } budget
      have hhex_pos : s.pos + 2 ≤ (skipHexDigits { s with pos := s.pos + 2 } budget).pos :=
        hhex.pos_le
      exact ⟨(s.readsOn_advance 2).trans hhex, by omega⟩
    · split
      · split
        · have hexp := skipDecimalDigits_readsOn { frac with pos := exp } budget
          have hexp_pos : exp ≤ (skipDecimalDigits { frac with pos := exp } budget).pos :=
            hexp.pos_le
          have hle : frac.pos ≤ exp := by simp only [exp]; split <;> omega
          exact ⟨hfrac.1.trans ((frac.readsOn_advance (exp - frac.pos)).trans
            (by rw [Nat.add_sub_cancel' hle]; exact hexp)), by omega⟩
        · exact hfrac
      · exact hfrac
  obtain ⟨hr, hlt⟩ := hdigits
  split
  · rename_i u kind heq
    split at heq
    · cases heq
      exact ⟨hr.trans ⟨rfl, rfl, Nat.le_succ _⟩, by simp only; omega⟩
    · cases heq
      exact ⟨hr.trans ⟨rfl, rfl, Nat.le_refl _⟩, hlt⟩

theorem skipIdentifierParts_readsOn :
    ∀ (s : Scanner) (n : Nat), s.ReadsOn (s.skipIdentifierParts n)
  | s, 0 => .refl s
  | s, n + 1 => by
    unfold skipIdentifierParts
    split
    · split
      · exact (s.readsOn_advance _).trans (skipIdentifierParts_readsOn _ n)
      · exact .refl s
    · exact .refl s

theorem skipIdentifierParts_advances {s : Scanner} {c : Char} (n : Nat)
    (hc : s.charAt? s.pos = some c) (hpart : isIdentifierPart c = true) :
    s.pos < (s.skipIdentifierParts (n + 1)).pos := by
  unfold skipIdentifierParts
  simp only [hc, hpart, ↓reduceIte]
  have hle := (skipIdentifierParts_readsOn { s with pos := s.pos + c.utf8Size } n).pos_le
  have hpos := c.utf8Size_pos
  simp only at hle
  omega

theorem isIdentifierPart_of_isIdentifierStart {c : Char} (h : isIdentifierStart c = true) :
    isIdentifierPart c = true := by
  simp only [isIdentifierStart, isIdentifierPart, Text.isAlphanumeric, Char.isAlphanum,
    Bool.or_eq_true, Bool.and_eq_true] at h ⊢
  grind

theorem scanIdentifier_advances {s : Scanner} {c : Char} (hc : s.charAt? s.pos = some c)
    (hpart : isIdentifierPart c = true) :
    s.ReadsOn s.scanIdentifier ∧ s.pos < s.scanIdentifier.pos := by
  unfold scanIdentifier
  extract_lets start t word
  exact ⟨(skipIdentifierParts_readsOn s _).trans ⟨rfl, rfl, Nat.le_refl _⟩,
    skipIdentifierParts_advances _ hc hpart⟩

theorem finish_advances (s : Scanner) {k : Nat} (kind : TokenKind) (hk : 0 < k) :
    s.ReadsOn (s.finish k kind) ∧ s.pos < (s.finish k kind).pos :=
  ⟨⟨rfl, rfl, Nat.le_add_right _ _⟩, Nat.lt_add_of_pos_right hk⟩

theorem scanPunctuation_advances {s : Scanner} {c : Char} (hc : s.charAt? s.pos = some c) :
    s.ReadsOn (s.scanPunctuation c) ∧ s.pos < (s.scanPunctuation c).pos := by
  unfold scanPunctuation
  extract_lets at1 at2
  split
  case h_27 =>
    split
    · exact scanIdentifier_advances hc (isIdentifierPart_of_isIdentifierStart ‹_›)
    · exact ⟨⟨rfl, rfl, Nat.le_add_right _ _⟩, Nat.lt_add_of_pos_right c.utf8Size_pos⟩
  all_goals repeat' split
  all_goals exact finish_advances _ _ (Nat.succ_pos _)

theorem isDigit_byte {c : Char} (h : c.isDigit = true) :
    c.utf8Size = 1 ∧ isDigitByte c.val.toUInt8 = true := by
  simp only [Char.isDigit, Bool.and_eq_true, decide_eq_true_eq] at h
  obtain ⟨h1, h2⟩ := h
  have h1' : 48 ≤ c.toNat := h1
  have h2' : c.toNat ≤ 57 := h2
  have hbyte : c.val.toUInt8.toNat = c.toNat % 256 := by
    rw [UInt32.toNat_toUInt8]; rfl
  refine ⟨Char.utf8Size_eq_one_iff.2 (by simp [UInt32.le_iff_toNat_le]; omega), ?_⟩
  simp only [isDigitByte, UInt8.le_iff_toNat_le, Bool.and_eq_true, decide_eq_true_eq, hbyte,
    UInt8.reduceToNat]
  omega

theorem numberStart {s : Scanner} {c : Char} (hc : s.charAt? s.pos = some c)
    (h : (c.isDigit || (c == '.' && s.byteSat (s.pos + 1) isDigitByte)) = true) :
    s.byteSat s.pos isDigitByte = true ∨ s.byteIs s.pos '.' = true := by
  rcases Bool.or_eq_true_iff.1 h with hdigit | hdot
  · obtain ⟨hsize, hbyte⟩ := isDigit_byte hdigit
    left
    simpa [byteSat, Text.byteAt?_of_charAt? hc hsize] using hbyte
  · right
    obtain ⟨rfl⟩ : c = '.' := by simpa using (Bool.and_eq_true_iff.1 hdot).1
    simp [byteIs, Text.byteIs, Text.byteAt?_of_charAt? hc (by decide), Char.toUInt8]

theorem scanString_advances (s : Scanner) (quote : Char) :
    s.ReadsOn (s.scanString quote) ∧ s.pos < (s.scanString quote).pos := by
  unfold scanString
  extract_lets start t
  have ht : s.ReadsOn t :=
    (s.readsOn_advance 1).trans (stringBody_readsOn quote start _ { s with pos := s.pos + 1 })
  have hlt : s.pos < t.pos :=
    Nat.lt_of_succ_le (stringBody_readsOn quote start _ { s with pos := s.pos + 1 }).pos_le
  exact ⟨ht.trans ⟨rfl, rfl, Nat.le_refl _⟩, hlt⟩

theorem scanTemplate_readsOn (s : Scanner) (fromBacktick : Bool) :
    s.ReadsOn (s.scanTemplate fromBacktick) :=
  templateBody_readsOn fromBacktick s.tokenStart _ s

theorem scanTemplate_backtick_advances (s : Scanner) :
    s.ReadsOn ({ s with pos := s.pos + 1 }.scanTemplate true) ∧
      s.pos < ({ s with pos := s.pos + 1 }.scanTemplate true).pos := by
  have h := scanTemplate_readsOn { s with pos := s.pos + 1 } true
  exact ⟨(s.readsOn_advance 1).trans h, Nat.lt_of_succ_le h.pos_le⟩

/-- Every token read at a character of the text spans at least one byte. -/
theorem scanAt_advances {s : Scanner} {c : Char} (hc : s.charAt? s.pos = some c) :
    s.ReadsOn (s.scanAt c) ∧ s.pos < (s.scanAt c).pos := by
  unfold scanAt
  split
  · exact scanString_advances s c
  · split
    · exact scanTemplate_backtick_advances s
    · split
      · exact scanNumber_advances s (numberStart hc ‹_›)
      · exact scanPunctuation_advances hc

/-! ### Trivia -/

theorem findCommentClose_ge {text : String} {p close : Nat}
    (h : findCommentClose text p = some close) : p ≤ close := by
  unfold findCommentClose at h
  obtain ⟨k, -, rfl⟩ := Option.map_eq_some_iff.1 h
  omega

theorem skipLineComment_advances {s : Scanner} (hc : s.charAt? s.pos = some '/') :
    s.ReadsOn s.skipLineComment ∧ s.pos < s.skipLineComment.pos := by
  unfold skipLineComment
  have hgt : s.pos < Text.findByteFrom s.text s.pos Text.isNewlineByte :=
    Text.findByteFrom_gt (Text.charAt?_lt hc)
      (by simp [Text.byteAt?_of_charAt? hc (by decide), Text.isNewlineByte])
  have hrec := recordComment_readsOn
    { s with pos := Text.findByteFrom s.text s.pos Text.isNewlineByte } s.pos false
  exact ⟨(s.readsOn_setPos (Nat.le_of_lt hgt)).trans hrec, Nat.lt_of_lt_of_le hgt hrec.pos_le⟩

theorem skipBlockComment_advances {s : Scanner} (h : s.pos < s.size) :
    s.ReadsOn s.skipBlockComment ∧ s.pos < s.skipBlockComment.pos := by
  unfold skipBlockComment
  extract_lets start bodyStart
  split
  rename_i t bodyEnd stop heq
  extract_lets body u
  have ht : s.ReadsOn t ∧ t.pos = s.pos ∧ s.pos < stop := by
    split at heq
    · rename_i close hclose
      cases heq
      exact ⟨.refl s, rfl, by have := findCommentClose_ge hclose; omega⟩
    · cases heq
      exact ⟨⟨rfl, rfl, Nat.le_refl _⟩, rfl, h⟩
  have hu : s.ReadsOn u ∧ u.pos = s.pos := by
    simp only [u]
    split
    · exact ⟨ht.1.trans ⟨rfl, rfl, Nat.le_refl _⟩, ht.2.1⟩
    · exact ⟨ht.1, ht.2.1⟩
  have hrec := recordComment_readsOn { u with pos := stop } start true
  exact ⟨(hu.1.trans (u.readsOn_setPos (by omega))).trans hrec,
    Nat.lt_of_lt_of_le ht.2.2 hrec.pos_le⟩

/-! ### The kind of token read

Trivia keeps the token kind the scanner had, and every token read at a character is something
other than the end of the file: the keyword table has no such entry, and a template left
unfinished by its round budget keeps the kind it started with. -/

theorem recordComment_token (s : Scanner) (start : Nat) (multiLine : Bool) :
    (s.recordComment start multiLine).token = s.token := by
  unfold recordComment
  split
  · split <;> rfl
  · rfl

theorem markLineEnd_token (s : Scanner) : s.markLineEnd.token = s.token := by
  unfold markLineEnd
  split
  · split <;> rfl
  · rfl

theorem skipLineComment_token (s : Scanner) : s.skipLineComment.token = s.token :=
  recordComment_token _ _ _

theorem skipBlockComment_token (s : Scanner) : s.skipBlockComment.token = s.token := by
  unfold skipBlockComment
  extract_lets start bodyStart
  split
  rename_i t bodyEnd stop heq
  extract_lets body u
  have ht : t.token = s.token := by
    split at heq <;> cases heq <;> rfl
  have hu : u.token = s.token := by
    simp only [u]
    split <;> exact ht
  exact (recordComment_token _ _ _).trans hu

theorem hexDigits_token : ∀ (s : Scanner) (n : Nat), (s.hexDigits n).1.token = s.token
  | s, 0 => rfl
  | s, n + 1 => by
    unfold hexDigits
    split
    · rfl
    · exact hexDigits_token { s with pos := s.pos + 1 } n

theorem hexEscape_token (s : Scanner) (min max : Nat) : (s.hexEscape min max).1.token = s.token :=
  hexDigits_token s max

theorem scanEscape_token (s : Scanner) : s.scanEscape.token = s.token := by
  unfold scanEscape
  extract_lets t
  split
  · rfl
  · rename_i c hc
    extract_lets u
    split
    case h_7 => split <;> rfl
    case h_8 => simpa [pushValue] using hexEscape_token u 2 2
    case h_9 =>
      split
      · split
        rename_i v code heq
        have hv : v.token = s.token := by
          have hx := hexEscape_token { u with pos := u.pos + 1 } 1 6
          rw [heq] at hx
          exact hx
        extract_lets w
        have hw : w.token = s.token := by
          simp only [w]
          split <;> exact hv
        simpa [pushValue] using hw
      · simpa [pushValue] using hexEscape_token u 4 4
    case h_10 => split <;> rfl
    all_goals rfl

theorem templateBody_token_ne (fromBacktick : Bool) (start : Nat) :
    ∀ (n : Nat) (s : Scanner), s.token ≠ .endOfFileToken →
      (templateBody fromBacktick start n s).token ≠ .endOfFileToken
  | 0, s, h => h
  | n + 1, s, h => by
    unfold templateBody
    extract_lets closed src s₁ s₂
    have hclosed : closed ≠ .endOfFileToken := by
      simp only [closed]
      split <;> simp
    have ih := templateBody_token_ne fromBacktick start n
    split
    · exact hclosed
    · split
      · exact hclosed
      · split
        · simp only
          split <;> simp
        · split
          · exact ih _ (by rwa [scanEscape_token])
          · split
            · refine ih _ ?_
              simp only [s₂, s₁, pushValue]
              split <;> exact h
            · exact ih _ h

theorem scanTemplate_token_ne {s : Scanner} (fromBacktick : Bool)
    (h : s.token ≠ .endOfFileToken) : (s.scanTemplate fromBacktick).token ≠ .endOfFileToken :=
  templateBody_token_ne fromBacktick _ _ s h

theorem keywordKind?_ne_eof (word : String) : keywordKind? word ≠ some .endOfFileToken := by
  unfold keywordKind?
  split <;> simp

theorem scanIdentifier_token_ne (s : Scanner) : s.scanIdentifier.token ≠ .endOfFileToken := by
  unfold scanIdentifier
  extract_lets start t word
  show (keywordKind? word).getD .identifier ≠ _
  cases hk : keywordKind? word with
  | none => simp
  | some k =>
    rintro rfl
    exact keywordKind?_ne_eof word hk

theorem scanPunctuation_token_ne (s : Scanner) (c : Char) :
    (s.scanPunctuation c).token ≠ .endOfFileToken := by
  unfold scanPunctuation
  extract_lets at1 at2
  split
  case h_27 =>
    split
    · exact scanIdentifier_token_ne s
    · simp
  all_goals repeat' split
  all_goals simp [finish]

theorem scanNumber_token_ne (s : Scanner) : s.scanNumber.token ≠ .endOfFileToken := by
  unfold scanNumber
  extract_lets start budget radix d frac exp digits
  split
  rename_i u kind heq
  show kind ≠ _
  split at heq <;> cases heq <;> simp

theorem scanAt_token_ne (s : Scanner) (c : Char) (h : s.token ≠ .endOfFileToken) :
    (s.scanAt c).token ≠ .endOfFileToken := by
  unfold scanAt
  split
  · simp [scanString]
  · split
    · exact scanTemplate_token_ne true h
    · split
      · exact scanNumber_token_ne s
      · exact scanPunctuation_token_ne s c

/-! ### The loop of `scan` -/

theorem Valid.of_lt {s : Scanner} (h : s.tokenStart < s.pos) (h' : s.tokenStart < s.size)
    (hne : s.token ≠ .endOfFileToken) : s.Valid :=
  ⟨Nat.le_of_lt h, fun _ => h, fun _ => h', fun he => absurd he hne⟩

theorem scanLoop_succ_cases (n : Nat) (s : Scanner) (h : s.EofAtEnd) :
    ((scanLoop (n + 1) s).Valid ∧ (scanLoop (n + 1) s).text = s.text ∧
        (scanLoop (n + 1) s).tokenStart = s.pos) ∨
      ∃ t, scanLoop (n + 1) s = scanLoop n t ∧ t.text = s.text ∧ t.tokenStart = s.pos ∧
        s.pos < t.pos ∧ s.pos < t.size ∧ t.token ≠ .endOfFileToken := by
  rw [scanLoop]
  split
  · rename_i hnone
    exact .inl ⟨⟨Nat.le_refl _, fun h => absurd rfl h, fun h => absurd rfl h, fun _ => hnone⟩,
      rfl, rfl⟩
  · rename_i c hc
    have hsize : s.pos < s.size := Text.charAt?_lt hc
    have hpos := c.utf8Size_pos
    have hne : s.token ≠ .endOfFileToken := fun he => nomatch (h he).symm.trans hc
    split
    · extract_lets m
      have hm := markLineEnd_readsOn { s with tokenStart := s.pos }
      refine .inr ⟨_, rfl, hm.text_eq, hm.tokenStart_eq, ?_, ?_, ?_⟩
      · show s.pos < s.pos + c.utf8Size
        omega
      · show s.pos < m.text.utf8ByteSize
        rw [hm.text_eq]
        exact hsize
      · exact fun he => hne ((markLineEnd_token { s with tokenStart := s.pos }).symm.trans he)
    · split
      · exact .inr ⟨_, rfl, rfl, rfl, by show s.pos < s.pos + c.utf8Size; omega, hsize, hne⟩
      · split
        · rename_i hline
          obtain ⟨rfl⟩ : c = '/' := by simpa using (Bool.and_eq_true_iff.1 hline).1
          obtain ⟨hr, hlt⟩ := skipLineComment_advances (s := { s with tokenStart := s.pos }) hc
          refine .inr ⟨_, rfl, hr.text_eq, hr.tokenStart_eq, hlt, ?_, ?_⟩
          · rw [size, hr.text_eq]
            exact hsize
          · exact fun he => hne ((skipLineComment_token { s with tokenStart := s.pos }).symm.trans he)
        · split
          · obtain ⟨hr, hlt⟩ := skipBlockComment_advances (s := { s with tokenStart := s.pos }) hsize
            refine .inr ⟨_, rfl, hr.text_eq, hr.tokenStart_eq, hlt, ?_, ?_⟩
            · rw [size, hr.text_eq]
              exact hsize
            · exact fun he => hne ((skipBlockComment_token { s with tokenStart := s.pos }).symm.trans he)
          · obtain ⟨hr, hlt⟩ := scanAt_advances (s := { s with tokenStart := s.pos }) hc
            refine .inl ⟨Valid.of_lt ?_ ?_ (scanAt_token_ne _ c hne), hr.text_eq, hr.tokenStart_eq⟩
            · rw [hr.tokenStart_eq]
              exact hlt
            · rw [hr.tokenStart_eq, size, hr.text_eq]
              exact hsize

theorem scanLoop_valid : ∀ (n : Nat) (s : Scanner), s.tokenStart < s.pos →
    s.tokenStart < s.size → s.token ≠ .endOfFileToken →
    (scanLoop n s).Valid ∧ (scanLoop n s).text = s.text ∧
      s.tokenStart ≤ (scanLoop n s).tokenStart
  | 0, s, h, h', hne => ⟨Valid.of_lt h h' hne, rfl, Nat.le_refl _⟩
  | n + 1, s, h, _, hne => by
    rcases scanLoop_succ_cases n s (fun he => absurd he hne) with
      ⟨hv, htext, hstart⟩ | ⟨t, heq, htext, hstart, hlt, hsize, htne⟩
    · exact ⟨hv, htext, by omega⟩
    · rw [heq]
      obtain ⟨hv', htext', hle⟩ := scanLoop_valid n t (by omega) (by omega) htne
      exact ⟨hv', htext'.trans htext, by omega⟩

/-- A scan keeps the text and reads a valid token that starts where the last one ended or
later. -/
theorem scan_valid (s : Scanner) (h : s.EofAtEnd) :
    s.scan.Valid ∧ s.scan.text = s.text ∧ s.pos ≤ s.scan.tokenStart := by
  unfold scan
  rcases scanLoop_succ_cases (s.size - s.pos)
      { s with fullStart := s.pos, lineBreakBefore := false, value := "" } h with
    ⟨hv, htext, hstart⟩ | ⟨t, heq, htext, hstart, hlt, hsize, htne⟩
  · exact ⟨hv, htext, Nat.le_of_eq hstart.symm⟩
  · simp only at hstart hlt hsize
    rw [heq]
    obtain ⟨hv', htext', hle⟩ := scanLoop_valid _ t (by omega) (by omega) htne
    exact ⟨hv', htext'.trans htext, by omega⟩

theorem scan_eof {s : Scanner} (hs : s.Valid) (he : s.token = .endOfFileToken) :
    s.scan.token = .endOfFileToken := by
  unfold scan
  rw [scanLoop]
  split
  · rfl
  · rename_i c hc
    exact nomatch (hs.eofAtEnd he).symm.trans hc

/-! ### Rescans -/

theorem Valid.of_readsOn {s t : Scanner} (hs : s.Valid) (hne : s.token ≠ .endOfFileToken)
    (h : s.ReadsOn t) (ht : t.token ≠ .endOfFileToken) : t.Valid := by
  have h1 := hs.tokenStart_lt_pos hne
  have h2 := hs.tokenStart_lt_size hne
  refine Valid.of_lt ?_ ?_ ht
  · rw [h.tokenStart_eq]; exact Nat.lt_of_lt_of_le h1 h.pos_le
  · rw [h.tokenStart_eq, size, h.text_eq]; exact h2

theorem rescanGreater_readsOn (s : Scanner) : s.ReadsOn s.rescanGreater := by
  unfold rescanGreater
  split
  · exact .refl s
  · extract_lets at0 at1 at2
    split
    · exact ⟨rfl, rfl, Nat.le_add_right _ 3⟩
    · split
      · exact ⟨rfl, rfl, Nat.le_add_right _ 2⟩
      · split
        · exact ⟨rfl, rfl, Nat.le_add_right _ 2⟩
        · split
          · exact ⟨rfl, rfl, Nat.le_add_right _ 1⟩
          · split
            · exact ⟨rfl, rfl, Nat.le_add_right _ 1⟩
            · exact .refl s

theorem rescanGreater_token_ne {s : Scanner} (hgt : s.token = .greaterThanToken) :
    s.rescanGreater.token ≠ .endOfFileToken := by
  unfold rescanGreater
  extract_lets at0 at1 at2
  repeat' split
  all_goals simp [hgt]

theorem rescanGreater_valid {s : Scanner} (hs : s.Valid) : s.rescanGreater.Valid := by
  by_cases hgt : s.token = .greaterThanToken
  · exact hs.of_readsOn (by rw [hgt]; decide) (rescanGreater_readsOn s) (rescanGreater_token_ne hgt)
  · unfold rescanGreater
    rw [if_pos (by simpa using hgt)]
    exact hs

theorem regexBody_readsOn (start : Nat) :
    ∀ (n : Nat) (inClass : Bool) (s : Scanner), s.ReadsOn (regexBody start n inClass s)
  | 0, _, s => .refl s
  | n + 1, inClass, s => by
    unfold regexBody
    split
    · simpa using ReadsOn.refl s
    · rename_i c hc
      split
      · simpa using ReadsOn.refl s
      · extract_lets t
        have ht : s.ReadsOn t := s.readsOn_advance c.utf8Size
        split
        · split
          · rename_i e he
            split
            · exact ht.trans (regexBody_readsOn start n inClass t)
            · exact ht.trans ((t.readsOn_advance e.utf8Size).trans (regexBody_readsOn start n _ _))
          · exact ht.trans (regexBody_readsOn start n inClass t)
        · split
          · exact ht.trans (regexBody_readsOn start n true t)
          · split
            · exact ht.trans (regexBody_readsOn start n false t)
            · split
              · exact ht
              · exact ht.trans (regexBody_readsOn start n inClass t)

/-- A `/` read again as a regular expression keeps its start and spans at least the slash. -/
theorem rescanSlash_valid {s : Scanner} (hs : s.Valid) :
    s.rescanSlash.Valid ∧ s.rescanSlash.text = s.text ∧
      s.rescanSlash.tokenStart = s.tokenStart := by
  unfold rescanSlash
  split
  · exact ⟨hs, rfl, rfl⟩
  · rename_i hslash
    have hne : s.token ≠ .endOfFileToken := by
      intro heof
      simp [heof] at hslash
    extract_lets start t u
    have ht := regexBody_readsOn start (s.size + 1) false { s with pos := start + 1 }
    have hu := skipIdentifierParts_readsOn t (t.size - t.pos + 1)
    have hr := ht.trans hu
    refine ⟨Valid.of_lt ?_ ?_ (by simp), hr.text_eq, hr.tokenStart_eq⟩
    · show u.tokenStart < u.pos
      rw [hr.tokenStart_eq]
      exact Nat.lt_of_succ_le hr.pos_le
    · show u.tokenStart < u.text.utf8ByteSize
      rw [hr.tokenStart_eq, hr.text_eq]
      exact hs.tokenStart_lt_size hne

/-- A `}` read again as the rest of a template keeps its start and spans at least the brace. -/
theorem rescanTemplate_valid {s : Scanner} (hs : s.Valid) :
    s.rescanTemplate.Valid ∧ s.rescanTemplate.text = s.text ∧
      s.rescanTemplate.tokenStart = s.tokenStart := by
  unfold rescanTemplate
  split
  · exact ⟨hs, rfl, rfl⟩
  · rename_i hbrace
    have hne : s.token ≠ .endOfFileToken := by
      intro heof
      simp [heof] at hbrace
    have hr := scanTemplate_readsOn { s with pos := s.tokenStart + 1, value := "" } false
    refine ⟨Valid.of_lt ?_ ?_ (scanTemplate_token_ne false hne), hr.text_eq, hr.tokenStart_eq⟩
    · rw [hr.tokenStart_eq]
      exact Nat.lt_of_succ_le hr.pos_le
    · rw [hr.tokenStart_eq, size, hr.text_eq]
      exact hs.tokenStart_lt_size hne

/-! ### Progress between tokens -/

/-- The bytes from the start of the current token to the end of the text. -/
def rest (s : Scanner) : Nat :=
  s.size - s.tokenStart

/-- `t` follows `s`: the same text, a valid token, and a token start no earlier. -/
structure LeadsTo (s t : Scanner) : Prop where
  valid : t.Valid
  text_eq : t.text = s.text
  tokenStart_le : s.tokenStart ≤ t.tokenStart

theorem LeadsTo.refl {s : Scanner} (h : s.Valid) : s.LeadsTo s :=
  ⟨h, rfl, Nat.le_refl _⟩

theorem LeadsTo.trans {s t u : Scanner} (h : s.LeadsTo t) (h' : t.LeadsTo u) : s.LeadsTo u :=
  ⟨h'.valid, h'.text_eq.trans h.text_eq, Nat.le_trans h.tokenStart_le h'.tokenStart_le⟩

theorem LeadsTo.rest_le {s t : Scanner} (h : s.LeadsTo t) : t.rest ≤ s.rest := by
  have := h.tokenStart_le
  simp only [rest, size, h.text_eq]
  omega

theorem scan_leadsTo {s : Scanner} (hs : s.Valid) : s.LeadsTo s.scan := by
  obtain ⟨hv, htext, hle⟩ := scan_valid s hs.eofAtEnd
  exact ⟨hv, htext, Nat.le_trans hs.tokenStart_le_pos hle⟩

/-- Reading past a token other than the end of the file leaves fewer bytes ahead. -/
theorem scan_rest_lt {s : Scanner} (hs : s.Valid) (hne : s.token ≠ .endOfFileToken) :
    s.scan.rest < s.rest := by
  obtain ⟨-, htext, hle⟩ := scan_valid s hs.eofAtEnd
  have h1 := hs.tokenStart_lt_pos hne
  have h2 := hs.tokenStart_lt_size hne
  simp only [rest, size, htext] at h2 ⊢
  omega

theorem rescanGreater_leadsTo {s : Scanner} (hs : s.Valid) : s.LeadsTo s.rescanGreater :=
  have h := rescanGreater_readsOn s
  ⟨rescanGreater_valid hs, h.text_eq, Nat.le_of_eq h.tokenStart_eq.symm⟩

theorem rescanSlash_leadsTo {s : Scanner} (hs : s.Valid) : s.LeadsTo s.rescanSlash :=
  have h := rescanSlash_valid hs
  ⟨h.1, h.2.1, Nat.le_of_eq h.2.2.symm⟩

theorem rescanTemplate_leadsTo {s : Scanner} (hs : s.Valid) : s.LeadsTo s.rescanTemplate :=
  have h := rescanTemplate_valid hs
  ⟨h.1, h.2.1, Nat.le_of_eq h.2.2.symm⟩

end Scanner

end ParamNarrow
