import ParamNarrow.Proofs.ScannerSteps
import ParamNarrow.Narrowing.Rewrite
import ParamNarrow.Token.Session
/-!
# Texts that read back as one token

The rewriter writes two kinds of text that the scanner must read back as meant: string literals,
written by `quoteString`, and the names of the synthesized types, written by `typeName`. A text
that reads back as one token gives `Scanner.oneTokenRun`: that token over the whole text, then the
end of the file, with no error and no comment recorded.

Every string reads back from its literal (`quoteString_reads_back`). The escape of each character
that the writer escapes is cooked back by `scanEscape`, and every other character is taken as it
is, so the loop over the body is an induction over the characters written (`stringBody_quoted`).

A synthesized name reads back as one identifier exactly when the function name, with its first
character in upper case, is made of characters that may continue an identifier
(`typeName_reads_as_identifier_iff`). The upper case of one character may be several, among them
combining marks that no identifier contains: the name made from `ΐ` reads as `InΙ` and then
characters that start no token.
-/

namespace ParamNarrow

namespace Scanner

/-! ### Texts that are one token -/

/-- What reading a text that is one token gives: that token over the whole text, with its kind and
value, then the end of the file. -/
def oneTokenRun (text : String) (kind : TokenKind) (value : String) : List TokenView × Scanner :=
  ([⟨kind, 0, 0, text.utf8ByteSize, value, text, false⟩,
    ⟨.endOfFileToken, text.utf8ByteSize, text.utf8ByteSize, text.utf8ByteSize, "", "", false⟩],
    { text
      pos := text.utf8ByteSize
      fullStart := text.utf8ByteSize
      tokenStart := text.utf8ByteSize
      token := .endOfFileToken })

theorem readTokens_one_token {s : Scanner} (n : Nat) (hne : s.scan.token ≠ .endOfFileToken)
    (heof : s.scan.scan.token = .endOfFileToken) :
    s.readTokens (n + 2) = ([s.scan.view, s.scan.scan.view], s.scan.scan) := by
  simp [readTokens, hne, heof]


theorem readTokens_head (s : Scanner) (n : Nat) : (s.readTokens (n + 1)).1.head? = some s.scan.view := by
  unfold readTokens
  dsimp only
  split <;> rfl

theorem readTokens_of_scan {text value : String} {kind : TokenKind} (n : Nat)
    (hk : kind ≠ .endOfFileToken)
    (h : (new text).scan = { text, pos := text.utf8ByteSize, token := kind, value }) :
    (new text).readTokens (n + 2) = oneTokenRun text kind value := by
  have hsecond : (new text).scan.scan =
      { text
        pos := text.utf8ByteSize
        fullStart := text.utf8ByteSize
        tokenStart := text.utf8ByteSize
        token := .endOfFileToken } := by
    rw [h, scan_at_end (Text.charAt?_size _)]
  have hwhole : Text.sliceOr text 0 text.utf8ByteSize = text := by
    simpa using Text.sliceOr_append "" text ""
  have hend : Text.sliceOr text text.utf8ByteSize text.utf8ByteSize = "" := by
    simpa using Text.sliceOr_append text "" ""
  rw [readTokens_one_token n (by rw [h]; exact hk) (by rw [hsecond]), hsecond, h]
  simp [oneTokenRun, view, tokenText, hwhole, hend]

/-! ### Escapes -/

theorem hexDigits_succ_of_digit {st : Scanner} {d : Nat} (n : Nat)
    (h : (Text.byteAt? st.text st.pos).bind hexDigitValue? = some d) :
    st.hexDigits (n + 1) =
      ((hexDigits { st with pos := st.pos + 1 } n).1, (hexDigits { st with pos := st.pos + 1 } n).2.1 + 1,
        d * Nat.pow 16 (hexDigits { st with pos := st.pos + 1 } n).2.1 +
          (hexDigits { st with pos := st.pos + 1 } n).2.2) := by
  rw [hexDigits, h]

theorem hexEscape_four {st : Scanner} {d₀ d₁ d₂ d₃ : Nat}
    (h₀ : (Text.byteAt? st.text st.pos).bind hexDigitValue? = some d₀)
    (h₁ : (Text.byteAt? st.text (st.pos + 1)).bind hexDigitValue? = some d₁)
    (h₂ : (Text.byteAt? st.text (st.pos + 2)).bind hexDigitValue? = some d₂)
    (h₃ : (Text.byteAt? st.text (st.pos + 3)).bind hexDigitValue? = some d₃) :
    st.hexEscape 4 4 = ({ st with pos := st.pos + 4 }, some (d₀ * 4096 + d₁ * 256 + d₂ * 16 + d₃)) := by
  unfold hexEscape
  rw [hexDigits_succ_of_digit 3 h₀, hexDigits_succ_of_digit 2 h₁, hexDigits_succ_of_digit 1 h₂,
    hexDigits_succ_of_digit 0 h₃]
  simp only [hexDigits, Nat.pow_eq, Nat.zero_add, Nat.reduceAdd, Std.le_refl, ↓reduceIte, Nat.reducePow, Nat.pow_one,
    Nat.pow_zero, Nat.mul_one, Nat.add_zero, Prod.mk.injEq, Option.some.injEq, true_and]
  omega

theorem byteAt?_of_eq_append {text a b c : String} (h : text = a ++ (b ++ c)) {k : Nat}
    (hk : k < b.utf8ByteSize) : Text.byteAt? text (a.utf8ByteSize + k) = Text.byteAt? b k := by
  rw [h, Text.byteAt?_append_right, Text.byteAt?_append_left _ hk]

theorem scanEscape_unicode {st : Scanner} {a b t : String} {d₀ d₁ d₂ d₃ : Nat}
    (h : st.text = a ++ ("\\u" ++ (t ++ b))) (hp : st.pos = a.utf8ByteSize)
    (ht : 4 ≤ t.utf8ByteSize) (hbrace : Text.byteIs t 0 '{' = false)
    (h₀ : (Text.byteAt? t 0).bind hexDigitValue? = some d₀)
    (h₁ : (Text.byteAt? t 1).bind hexDigitValue? = some d₁)
    (h₂ : (Text.byteAt? t 2).bind hexDigitValue? = some d₂)
    (h₃ : (Text.byteAt? t 3).bind hexDigitValue? = some d₃) :
    st.scanEscape =
      { st with
        pos := st.pos + 6
        value := st.value.push (codePointChar (some (d₀ * 4096 + d₁ * 256 + d₂ * 16 + d₃))) } := by
  have hu : Text.charAt? st.text (st.pos + 1) = some 'u' := by
    have h' : st.text = (a ++ "\\") ++ ("u" ++ (t ++ b)) := by
      rw [h, String.append_assoc]; rfl
    have := Text.charAt?_of_eq_append h'
    rw [String.utf8ByteSize_append, ← hp, show "\\".utf8ByteSize = 1 by decide] at this
    simpa [String.toList_append, show "u".toList = ['u'] by decide] using this
  have hdigit : ∀ k, k < 4 → Text.byteAt? st.text (st.pos + 2 + k) = Text.byteAt? t k := by
    intro k hk
    have h' : st.text = (a ++ "\\u") ++ (t ++ b) := by rw [h, String.append_assoc]
    rw [show st.pos + 2 + k = (a ++ "\\u").utf8ByteSize + k by
      rw [String.utf8ByteSize_append, ← hp, show "\\u".utf8ByteSize = 2 by decide],
      byteAt?_of_eq_append h' (by omega)]
  have hhex : ({ st with pos := st.pos + 2 } : Scanner).hexEscape 4 4 =
      ({ st with pos := st.pos + 6 }, some (d₀ * 4096 + d₁ * 256 + d₂ * 16 + d₃)) := by
    refine hexEscape_four ?_ ?_ ?_ ?_
    · simpa [hdigit 0 (by omega)] using h₀
    · simpa [hdigit 1 (by omega)] using h₁
    · simpa [hdigit 2 (by omega)] using h₂
    · simpa [hdigit 3 (by omega)] using h₃
  have hnobrace : Text.byteIs st.text (st.pos + 2) '{' = false := by
    simpa [Text.byteIs, hdigit 0 (by omega)] using hbrace
  unfold scanEscape
  simp only [charAt?, hu, show 'u'.utf8Size = 1 from rfl, byteIs, hnobrace, Bool.false_eq_true,
    ↓reduceIte, Nat.add_assoc, Nat.reduceAdd, hhex]
  rfl

/-- The characters that a string literal written by `quoteString` escapes. -/
def Escaped (c : Char) : Prop :=
  c = '"' ∨ c = '\\' ∨ c = '\n' ∨ c = '\r' ∨ c = '\t' ∨ c = '\u2028' ∨ c = '\u2029'

instance (c : Char) : Decidable (Escaped c) :=
  inferInstanceAs (Decidable (c = '"' ∨ c = '\\' ∨ c = '\n' ∨ c = '\r' ∨ c = '\t' ∨
    c = '\u2028' ∨ c = '\u2029'))

theorem scanEscape_quoteChar {st : Scanner} {a b : String} {c : Char}
    (h : st.text = a ++ (quoteChar c ++ b)) (hp : st.pos = a.utf8ByteSize) (hc : Escaped c) :
    st.scanEscape = { st with pos := st.pos + (quoteChar c).utf8ByteSize, value := st.value.push c } := by
  have hletter : ∀ (x : Char), quoteChar c = "\\" ++ String.singleton x →
      Text.charAt? st.text (st.pos + 1) = some x := by
    intro x hx
    have h' : st.text = (a ++ "\\") ++ (String.singleton x ++ b) := by
      rw [h, hx, String.append_assoc, String.append_assoc]
    have := Text.charAt?_of_eq_append h'
    rwa [String.utf8ByteSize_append, ← hp, show "\\".utf8ByteSize = 1 by decide,
      String.toList_append, String.toList_singleton] at this
  have hunicode : ∀ (t : String), quoteChar c = "\\u" ++ t → st.text = a ++ ("\\u" ++ (t ++ b)) := by
    intro t ht
    rw [h, ht, String.append_assoc]
  rcases hc with rfl | rfl | rfl | rfl | rfl | rfl | rfl
  · unfold scanEscape; simp only [charAt?, hletter '"' (by decide)]; rfl
  · unfold scanEscape; simp only [charAt?, hletter '\\' (by decide)]; rfl
  · unfold scanEscape; simp only [charAt?, hletter 'n' (by decide)]; rfl
  · unfold scanEscape; simp only [charAt?, hletter 'r' (by decide)]; rfl
  · unfold scanEscape; simp only [charAt?, hletter 't' (by decide)]; rfl
  · rw [@scanEscape_unicode _ _ _ _ 2 0 2 8 (hunicode "2028" (by decide)) hp
      (by decide) (by decide) (by decide) (by decide) (by decide) (by decide),
      show (quoteChar '\u2028').utf8ByteSize = 6 by decide,
      show codePointChar (some (2 * 4096 + 0 * 256 + 2 * 16 + 8)) = '\u2028' by decide]
  · rw [@scanEscape_unicode _ _ _ _ 2 0 2 9 (hunicode "2029" (by decide)) hp
      (by decide) (by decide) (by decide) (by decide) (by decide) (by decide),
      show (quoteChar '\u2029').utf8ByteSize = 6 by decide,
      show codePointChar (some (2 * 4096 + 0 * 256 + 2 * 16 + 9)) = '\u2029' by decide]

theorem quoteChar_of_not_escaped {c : Char} (hc : ¬ Escaped c) : quoteChar c = c.toString := by
  simp only [Escaped, not_or] at hc
  obtain ⟨h1, h2, h3, h4, h5, h6, h7⟩ := hc
  simp [quoteChar, h1, h2, h3, h4, h5, h6, h7]

theorem quoteChar_head (c : Char) :
    (quoteChar c).toList.head? = some (if Escaped c then '\\' else c) := by
  by_cases hc : Escaped c
  · rw [if_pos hc]
    rcases hc with rfl | rfl | rfl | rfl | rfl | rfl | rfl <;> decide
  · rw [if_neg hc, quoteChar_of_not_escaped hc]
    simp

/-! ### The string loop -/

section
variable {quote : Char} {start n : Nat} {st : Scanner}

theorem stringBody_close (h : Text.charAt? st.text st.pos = some quote) :
    stringBody quote start (n + 1) st = { st with pos := st.pos + 1 } := by
  simp [stringBody, charAt?, h]

theorem stringBody_backslash (h : Text.charAt? st.text st.pos = some '\\') (hq : quote ≠ '\\') :
    stringBody quote start (n + 1) st = stringBody quote start n st.scanEscape := by
  simp [stringBody, charAt?, h, Ne.symm hq]

theorem stringBody_plain {c : Char} (h : Text.charAt? st.text st.pos = some c) (hq : c ≠ quote)
    (hb : c ≠ '\\') (hn : c ≠ '\n') (hr : c ≠ '\r') :
    stringBody quote start (n + 1) st =
      stringBody quote start n { st with pos := st.pos + c.utf8Size, value := st.value.push c } := by
  simp [stringBody, charAt?, h, hq, hb, hn, hr, pushValue]

end

theorem stringBody_quoteChar {st : Scanner} {a b : String} {c : Char} (start n : Nat)
    (h : st.text = a ++ (quoteChar c ++ b)) (hp : st.pos = a.utf8ByteSize) :
    stringBody '"' start (n + 1) st =
      stringBody '"' start n { st with pos := st.pos + (quoteChar c).utf8ByteSize, value := st.value.push c } := by
  have hhead : Text.charAt? st.text st.pos = some (if Escaped c then '\\' else c) := by
    rw [hp, Text.charAt?_of_eq_append h, String.toList_append, List.head?_append,
      quoteChar_head]
    rfl
  by_cases hc : Escaped c
  · rw [if_pos hc] at hhead
    rw [stringBody_backslash hhead (by decide), scanEscape_quoteChar h hp hc]
  · rw [if_neg hc] at hhead
    have hplain := hc
    simp only [Escaped, not_or] at hplain
    obtain ⟨h1, h2, h3, h4, -⟩ := hplain
    rw [stringBody_plain hhead h1 h2 h3 h4, quoteChar_of_not_escaped hc]
    simp

/-- A whole string written by `quoteString`, from after its opening quote, reads back as its
characters appended to the value, and ends past the closing quote. -/
theorem stringBody_quoted (start : Nat) (b : String) :
    ∀ (r : List Char) (a : String) (st : Scanner) (n : Nat),
    st.text = a ++ (String.join (r.map quoteChar) ++ ("\"" ++ b)) → st.pos = a.utf8ByteSize →
    r.length < n →
    stringBody '"' start n st =
      { st with
        pos := st.pos + (String.join (r.map quoteChar)).utf8ByteSize + 1
        value := st.value ++ String.ofList r }
  | [], a, st, n, h, hp, hn => by
    obtain ⟨m, rfl⟩ : ∃ m, n = m + 1 := ⟨n - 1, by simp at hn; omega⟩
    have hquote : Text.charAt? st.text st.pos = some '"' := by
      rw [hp, Text.charAt?_of_eq_append h]
      simp [String.toList_append, show "\"".toList = ['"'] by decide]
    rw [stringBody_close hquote]
    simp
  | c :: r, a, st, n, h, hp, hn => by
    obtain ⟨m, rfl⟩ : ∃ m, n = m + 1 := ⟨n - 1, by simp at hn; omega⟩
    have h' : st.text = a ++ (quoteChar c ++ (String.join (r.map quoteChar) ++ ("\"" ++ b))) := by
      rw [h, List.map_cons, String.join_cons, String.append_assoc]
    rw [stringBody_quoteChar start m h' hp]
    rw [stringBody_quoted start b r (a ++ quoteChar c) _ m
      (by rw [h', String.append_assoc]) (by simp [hp]) (by simp at hn; omega)]
    have hvalue : st.value.push c ++ String.ofList r = st.value ++ String.ofList (c :: r) := by
      rw [String.ofList_cons, String.push_eq_append, String.append_assoc]
    simp [String.join_cons, Nat.add_assoc, hvalue]

theorem length_le_quoted (r : List Char) :
    r.length ≤ (String.join (r.map quoteChar)).utf8ByteSize := by
  induction r with
  | nil => simp
  | cons c r ih =>
    have hc : 0 < (quoteChar c).utf8ByteSize := by
      by_cases hesc : Escaped c
      · rcases hesc with rfl | rfl | rfl | rfl | rfl | rfl | rfl <;> decide
      · rw [quoteChar_of_not_escaped hesc]
        simpa using c.utf8Size_pos
    simp only [List.length_cons, List.map_cons, String.join_cons, String.utf8ByteSize_append]
    omega

theorem scanString_quoteString (text : String) {s : Scanner} {a b : String}
    (h : s.text = a ++ (quoteString text ++ b)) (hp : s.pos = a.utf8ByteSize) :
    s.scanString '"' =
      { s with
        pos := s.pos + (quoteString text).utf8ByteSize
        token := .stringLiteral
        value := s.value ++ text } := by
  have hbody : s.text = (a ++ "\"") ++ (String.join (text.toList.map quoteChar) ++ ("\"" ++ b)) := by
    rw [h, quoteString]
    simp only [String.append_assoc]
  have hlen := length_le_quoted text.toList
  have hsize : (quoteString text).utf8ByteSize =
      (String.join (text.toList.map quoteChar)).utf8ByteSize + 2 := by
    simp only [quoteString, String.utf8ByteSize_append, show "\"".utf8ByteSize = 1 by decide]
    omega
  have htext : s.size = a.utf8ByteSize + (quoteString text).utf8ByteSize + b.utf8ByteSize := by
    simp only [size, h, String.utf8ByteSize_append]
    omega
  unfold scanString
  dsimp only
  rw [stringBody_quoted s.pos b text.toList (a ++ "\"") { s with pos := s.pos + 1 } _ hbody
    (by simp [hp, show "\"".utf8ByteSize = 1 by decide]) (by simp only [size] at htext ⊢; omega)]
  simp only [String.ofList_toList, hsize]
  congr 1
  omega

/-! ### Identifiers -/

theorem ascii_letter_classes {c : Char} (h : c.isAlpha = true) :
    isLineBreak c = false ∧ isBlank c = false ∧ c ≠ '/' ∧ c.isDigit = false ∧
      (c == '"' || c == '\'') = false ∧ c ≠ '`' ∧ c ≠ '.' := by
  change (decide (c.val ≥ 'A'.val ∧ c.val ≤ 'Z'.val) || (decide (c.val ≥ 'a'.val) && decide (c.val ≤ 'z'.val))) = true at h
  simp only [Bool.or_eq_true, Bool.and_eq_true, decide_eq_true_eq, UInt32.le_iff_toNat_le, ge_iff_le,
    Char.toNat_val] at h
  simp only [isLineBreak, isBlank, Char.isDigit, Bool.or_eq_false_iff, Bool.and_eq_false_iff,
    beq_eq_false_iff_ne, ne_eq, decide_eq_false_iff_not, Char.le_def, UInt32.le_iff_toNat_le,
    ← Char.val_inj, ← UInt32.toNat_inj, Char.toNat_val]
  simp only [Char.reduceToNat] at h ⊢
  omega

theorem scanPunctuation_identifierStart (s : Scanner) {c : Char} (h : isIdentifierStart c = true) :
    s.scanPunctuation c = s.scanIdentifier := by
  unfold scanPunctuation
  extract_lets at1 at2
  split
  case h_27 => simp [h]
  all_goals exact absurd h (by decide)

theorem scanAt_letter (s : Scanner) {c : Char} (h : c.isAlpha = true) : s.scanAt c = s.scanIdentifier := by
  obtain ⟨-, -, -, hdigit, hquote, htick, hdot⟩ := ascii_letter_classes h
  have hstart : isIdentifierStart c = true := by simp [isIdentifierStart, h]
  simp [scanAt, hdigit, hquote, htick, hdot, scanPunctuation_identifierStart s hstart]

theorem skipIdentifierParts_run (rest : List Char) (hrest : ∀ d ∈ rest.head?, isIdentifierPart d = false) :
    ∀ (r : List Char) (a : String) (s : Scanner) (n : Nat),
    s.text = a ++ String.ofList (r ++ rest) → s.pos = a.utf8ByteSize →
    r.all isIdentifierPart = true → r.length < n →
    skipIdentifierParts s n = { s with pos := s.pos + (String.ofList r).utf8ByteSize }
  | [], a, s, n, h, hp, _, hn => by
    obtain ⟨m, rfl⟩ : ∃ m, n = m + 1 := ⟨n - 1, by simp at hn; omega⟩
    have hc : Text.charAt? s.text s.pos = rest.head? := by
      rw [hp, Text.charAt?_of_eq_append h, List.nil_append, String.toList_ofList]
    cases hd : rest.head? with
    | none => simp [skipIdentifierParts, charAt?, hc, hd]
    | some d => simp [skipIdentifierParts, charAt?, hc, hd, hrest d hd]
  | c :: r, a, s, n, h, hp, hr, hn => by
    obtain ⟨m, rfl⟩ : ∃ m, n = m + 1 := ⟨n - 1, by simp at hn; omega⟩
    simp only [List.all_cons, Bool.and_eq_true] at hr
    have hc : Text.charAt? s.text s.pos = some c := by
      rw [hp, Text.charAt?_of_eq_append h, String.toList_ofList]
      rfl
    have h' : s.text = (a ++ String.singleton c) ++ String.ofList (r ++ rest) := by
      rw [h, String.append_assoc, List.cons_append, String.ofList_cons]
    simp only [skipIdentifierParts, charAt?, hc, hr.1, ↓reduceIte]
    rw [skipIdentifierParts_run rest hrest r (a ++ String.singleton c) { s with pos := s.pos + c.utf8Size } m h'
      (by simp [hp]) hr.2 (by simp at hn; omega)]
    simp [String.ofList_cons, String.utf8ByteSize_singleton, Nat.add_assoc]

theorem length_le_utf8ByteSize (l : List Char) : l.length ≤ (String.ofList l).utf8ByteSize := by
  induction l with
  | nil => simp
  | cons c l ih =>
    have hc := c.utf8Size_pos
    simp only [List.length_cons, String.ofList_cons, String.utf8ByteSize_append,
      String.utf8ByteSize_singleton]
    omega

theorem scan_leading_identifier {w : String} {c : Char} {r rest : List Char}
    (hw : w.toList = c :: r ++ rest) (hletter : c.isAlpha = true)
    (hr : r.all isIdentifierPart = true) (hrest : ∀ d ∈ rest.head?, isIdentifierPart d = false) :
    (new w).scan =
      { text := w
        pos := (String.ofList (c :: r)).utf8ByteSize
        value := String.ofList (c :: r)
        token := (keywordKind? (String.ofList (c :: r))).getD .identifier } := by
  have hw' : w = String.ofList (c :: r) ++ String.ofList rest := by
    rw [← String.ofList_append, ← hw, String.ofList_toList]
  have hc : Text.charAt? w 0 = some c := by
    have := Text.charAt?_of_eq_append (String.empty_append (s := w)).symm
    rwa [hw, String.utf8ByteSize_empty] at this
  have hparts : (c :: r).all isIdentifierPart = true := by
    have hstart : isIdentifierStart c = true := by simp [isIdentifierStart, hletter]
    simp [isIdentifierPart_of_isIdentifierStart hstart, hr]
  have hslice : Text.sliceOr w 0 (String.ofList (c :: r)).utf8ByteSize = String.ofList (c :: r) := by
    rw [hw']
    simpa using Text.sliceOr_append "" (String.ofList (c :: r)) (String.ofList rest)
  have hlen : (c :: r).length < w.utf8ByteSize + 1 := by
    have := length_le_utf8ByteSize (c :: r)
    rw [hw', String.utf8ByteSize_append]
    omega
  obtain ⟨hline, hblank, hslash, -⟩ := ascii_letter_classes hletter
  unfold scan
  rw [scanLoop_at_token _ (by exact hc) hline hblank hslash, scanAt_letter _ hletter]
  unfold scanIdentifier
  dsimp only
  rw [skipIdentifierParts_run rest hrest (c :: r) "" _ _ ?_ rfl hparts ?_]
  · simp only [new, String.empty_append, Nat.zero_add, hslice]
  · show w = "" ++ String.ofList (c :: r ++ rest)
    rw [String.empty_append, ← hw, String.ofList_toList]
  · simpa [new, size] using hlen

theorem readTokens_identifier {w : String} {c : Char} (n : Nat) (hc : w.toList.head? = some c)
    (hletter : c.isAlpha = true) (hw : w.toList.all isIdentifierPart = true)
    (hk : keywordKind? w = none) :
    (new w).readTokens (n + 2) = oneTokenRun w .identifier w := by
  obtain ⟨r, hr⟩ : ∃ r, w.toList = c :: r := by
    cases hl : w.toList with
    | nil => simp [hl] at hc
    | cons d r => simp only [hl, List.head?_cons, Option.some.injEq] at hc; exact ⟨r, by rw [hc]⟩
  have hrun := @scan_leading_identifier w c r [] (by simp [hr]) hletter
    (by simp only [hr, List.all_cons, Bool.and_eq_true] at hw; exact hw.2) (by simp)
  rw [← hr, String.ofList_toList, hk] at hrun
  exact readTokens_of_scan n (by decide) hrun

end Scanner

/-! ### Keywords -/

theorem keywordKind?_head {w : String} {k : TokenKind} (h : keywordKind? w = some k) :
    ∃ c ∈ w.toList.head?, c.isLower := by
  unfold keywordKind? at h
  split at h <;> simp_all

theorem keywordKind?_eq_none_of_head {w : String} {c : Char} (hc : w.toList.head? = some c)
    (hlower : c.isLower = false) : keywordKind? w = none := by
  cases hk : keywordKind? w with
  | none => rfl
  | some k =>
    obtain ⟨d, hd, hd'⟩ := keywordKind?_head hk
    rw [hc, Option.mem_some_iff] at hd
    rw [← hd, hlower] at hd'
    contradiction

/-! ### String literals -/

/-- A string literal written by `quoteString` reads back through the scanner as one string literal
token that spans the whole text and whose value is the string written, then the end of the file,
with no error recorded. -/
theorem quoteString_reads_back (text : String) (n : Nat) :
    (Scanner.new (quoteString text)).readTokens (n + 2) =
      Scanner.oneTokenRun (quoteString text) .stringLiteral text := by
  have hc : Text.charAt? (quoteString text) 0 = some '"' := by
    rw [show (0 : Nat) = "".utf8ByteSize from rfl,
      Text.charAt?_of_eq_append (String.empty_append (s := quoteString text)).symm]
    simp [quoteString, String.toList_append, show "\"".toList = ['"'] by decide]
  refine Scanner.readTokens_of_scan n (by decide) ?_
  unfold Scanner.scan
  rw [Scanner.scanLoop_at_token _ (by exact hc) (by decide) (by decide) (by decide)]
  simp only [Scanner.scanAt, beq_self_eq_true, Bool.true_or, ↓reduceIte]
  rw [Scanner.scanString_quoteString text (a := "") (b := "") (by simp [Scanner.new]) rfl]
  simp [Scanner.new]

/-! ### Names of synthesized types -/

namespace Narrowing

theorem typeName_toList (f : String) (i : Nat) :
    (typeName f i).toList = 'I' :: 'n' :: ((capitalize f).toList ++ (toString (i + 1)).toList) := by
  simp [typeName, String.toList_append, show "In".toList = ['I', 'n'] by decide]

theorem toString_identifierParts (n : Nat) : (toString n).toList.all isIdentifierPart = true := by
  rw [Nat.toString_eq_repr, Nat.toList_repr, List.all_eq_true]
  intro c hc
  have hdigit := Nat.isDigit_of_mem_toDigits (by decide) (by decide) hc
  simp [isIdentifierPart, Char.isAlphanum, hdigit]

theorem isIdentifierText_typeName (f : String) (i : Nat) :
    isIdentifierText (typeName f i) = (capitalize f).toList.all isIdentifierPart := by
  unfold isIdentifierText
  rw [typeName_toList]
  simp only [List.all_cons, List.all_append, toString_identifierParts, Bool.and_true, Bool.true_and,
    show isIdentifierStart 'I' = true by decide, show isIdentifierPart 'n' = true by decide]

theorem keywordKind?_typeName (f : String) (i : Nat) : keywordKind? (typeName f i) = none :=
  keywordKind?_eq_none_of_head (c := 'I') (by simp [typeName_toList]) (by decide)

theorem scan_typeName_short {f : String} (i : Nat)
    (hcap : (capitalize f).toList.all isIdentifierPart = false) :
    (Scanner.new (typeName f i)).scan.pos < (typeName f i).utf8ByteSize := by
  let l := (capitalize f).toList ++ (toString (i + 1)).toList
  obtain ⟨d, rest, hdrop⟩ : ∃ d rest, l.dropWhile isIdentifierPart = d :: rest := by
    cases hl : l.dropWhile isIdentifierPart with
    | nil =>
      have hall : l.all isIdentifierPart = true := by
        rw [← List.takeWhile_append_dropWhile (p := isIdentifierPart) (l := l), hl,
          List.append_nil, List.all_takeWhile]
      simp [l, List.all_append, hcap] at hall
    | cons d rest => exact ⟨d, rest, rfl⟩
  have hd : isIdentifierPart d = false := by
    have := List.head?_dropWhile_not isIdentifierPart l
    rwa [hdrop] at this
  have hsplit : (typeName f i).toList = 'I' :: ('n' :: l.takeWhile isIdentifierPart) ++ d :: rest := by
    rw [typeName_toList, ← hdrop]
    simp [l]
  have hscan := Scanner.scan_leading_identifier hsplit (by decide)
    (by simp [List.all_takeWhile, show isIdentifierPart 'n' = true by decide]) (by simpa using hd)
  have hsize : (typeName f i).utf8ByteSize =
      (String.ofList ('I' :: 'n' :: l.takeWhile isIdentifierPart)).utf8ByteSize +
        (String.ofList (d :: rest)).utf8ByteSize := by
    rw [← String.utf8ByteSize_append, ← String.ofList_append, ← hsplit, String.ofList_toList]
  have hd_size : 0 < (String.ofList (d :: rest)).utf8ByteSize := by
    simpa [String.ofList_cons, String.utf8ByteSize_append, String.utf8ByteSize_singleton] using
      Nat.lt_add_right _ d.utf8Size_pos
  rw [hscan, hsize]
  dsimp only
  omega

/-- The name synthesized for a parameter reads back through the scanner as one identifier, and not
as a keyword, exactly when the function name with its first character in upper case is made of
characters that may continue an identifier. -/
theorem typeName_reads_as_identifier_iff (f : String) (i : Nat) :
    keywordKind? (typeName f i) = none ∧
      (isIdentifierText (typeName f i) = true ↔ (capitalize f).toList.all isIdentifierPart = true) ∧
      ((∀ n, (Scanner.new (typeName f i)).readTokens (n + 2) =
          Scanner.oneTokenRun (typeName f i) .identifier (typeName f i)) ↔
        (capitalize f).toList.all isIdentifierPart = true) := by
  refine ⟨keywordKind?_typeName f i, by rw [isIdentifierText_typeName], ?_⟩
  constructor
  · intro hread
    refine Decidable.byContradiction fun hcap => ?_
    have hshort := scan_typeName_short i (Bool.eq_false_iff.2 hcap)
    have hhead := Scanner.readTokens_head (Scanner.new (typeName f i)) 1
    rw [hread 0] at hhead
    simp only [Scanner.oneTokenRun, List.head?_cons, Option.some.injEq, Scanner.view] at hhead
    have hstop := congrArg TokenView.stop hhead
    simp only at hstop
    omega
  · intro hcap n
    have hparts : (typeName f i).toList.all isIdentifierPart = true := by
      rw [typeName_toList]
      simp only [List.all_cons, List.all_append, hcap, toString_identifierParts, Bool.and_true,
        show isIdentifierPart 'I' = true by decide, show isIdentifierPart 'n' = true by decide]
    exact Scanner.readTokens_identifier n (c := 'I') (by simp [typeName_toList]) (by decide) hparts
      (keywordKind?_typeName f i)

/-- The name made from \u0390, whose upper case is \u0399 followed by two combining marks, is not an
identifier, though the function name is. -/
theorem typeName_iota_not_identifier :
    isIdentifierText "\u0390" = true ∧ isIdentifierText (typeName "\u0390" 0) = false ∧
      (Scanner.new (typeName "\u0390" 0)).scan.pos < (typeName "\u0390" 0).utf8ByteSize := by
  have hcap : (capitalize "\u0390").toList.all isIdentifierPart = false := by decide +kernel
  refine ⟨by decide +kernel, ?_, scan_typeName_short 0 hcap⟩
  rw [isIdentifierText_typeName, hcap]

end Narrowing

end ParamNarrow
