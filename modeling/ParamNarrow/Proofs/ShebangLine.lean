import ParamNarrow.Proofs.ScannerSteps
import ParamNarrow.Print.Printer
import ParamNarrow.Syntax.Parser.File
/-!
# The `#!` line: what the scanner skips and what the printer copies

A file may start with a byte order mark and then a `#!` line. The scanner skips that line up to
the first line feed or carriage return of the text, and reads the file's first token from there.
The printer finds the line on its own: it copies the text up to the first line feed, less the
carriage returns that end it, and counts every comment before that line feed as written.

The two agree exactly when the line the scanner skipped is not ended by a carriage return
(`shebangLayout_matches_scanner_iff`). After a lone carriage return the printer copies the text
that follows it up to the next line feed, text the parser reads and prints again as statements
(`print_repeats_text_after_carriage_return`); after a carriage return and a line feed it copies
the right line but counts comments as written from the line feed on, one byte after the scanner.
-/

namespace ParamNarrow

namespace Text

variable {text : String} {pos q : Nat} {p p' : UInt8 → Bool}

/-! ### Searching for a byte -/

theorem findByteFrom_le_of (hq : pos ≤ q) (hpass : (byteAt? text q).any p = true) :
    findByteFrom text pos p ≤ q := by
  have hlt : q < text.utf8ByteSize := by
    cases hb : byteAt? text q with
    | none => simp [hb] at hpass
    | some b => exact byteAt?_lt hb
  unfold findByteFrom
  cases hk : (List.range (text.utf8ByteSize - pos)).find? (fun k => (byteAt? text (pos + k)).any p) with
  | none =>
    rw [List.find?_range_eq_none] at hk
    have hq' := hk (q - pos) (by omega)
    rw [Nat.add_sub_cancel' hq, hpass] at hq'
    cases hq'
  | some k =>
    obtain ⟨-, -, hmin⟩ := List.find?_range_eq_some.1 hk
    simp only [Option.elim_some]
    refine Nat.le_of_not_lt fun hgt => ?_
    have hq' := hmin (q - pos) (by omega)
    rw [Nat.add_sub_cancel' hq, hpass] at hq'
    cases hq'

theorem any_eq_false_of_lt_findByteFrom {k : Nat} (hk : pos ≤ k)
    (hlt : k < findByteFrom text pos p) : (byteAt? text k).any p = false :=
  Bool.eq_false_iff.2 fun hpass =>
    Nat.lt_irrefl _ (Nat.lt_of_lt_of_le hlt (findByteFrom_le_of hk hpass))

theorem findByteFrom_mono (hpp : ∀ b, p' b = true → p b = true) (hpos : pos ≤ text.utf8ByteSize) :
    findByteFrom text pos p ≤ findByteFrom text pos p' := by
  rcases findByteFrom_spec text pos p' with h | ⟨b, hb, hpass⟩
  · rw [h]
    exact findByteFrom_le_size text pos p
  · refine findByteFrom_le_of (findByteFrom_ge hpos) ?_
    rw [hb]
    exact hpp b hpass

theorem findByteFrom_lineFeed_eq_iff :
    findByteFrom text 0 (· == 10) = findByteFrom text 0 isNewlineByte ↔
      byteIs text (findByteFrom text 0 isNewlineByte) '\r' = false := by
  constructor
  · intro h
    rw [← h]
    rcases findByteFrom_spec text 0 (· == 10) with hend | ⟨b, hb, hlf⟩
    · rw [hend]
      simp [byteIs, byteAt?]
    · rw [byteIs, hb, beq_iff_eq.1 hlf]
      decide
  · intro hcr
    refine Nat.le_antisymm ?_ (findByteFrom_mono (by simp +contextual [isNewlineByte]) (Nat.zero_le _))
    rcases findByteFrom_spec text 0 isNewlineByte with hend | ⟨b, hb, hnl⟩
    · rw [hend]
      exact findByteFrom_le_size text 0 _
    · have hb10 : b = 10 := by
        rw [byteIs, hb] at hcr
        simp only [isNewlineByte, Bool.or_eq_true, beq_iff_eq] at hnl
        rcases hnl with h10 | h13
        · exact h10
        · subst h13
          exact absurd hcr (by decide)
      exact findByteFrom_le_of (Nat.zero_le _) (by rw [hb, hb10]; rfl)

/-! ### Slices -/

theorem pos?_offset {s : String} {n : Nat} {P : s.Pos} (h : s.pos? ⟨n⟩ = some P) :
    P.offset.byteIdx = n := by
  unfold String.pos? String.Slice.pos? at h
  split at h
  · simp only [Option.map_some, Option.some.injEq] at h
    subst h
    rfl
  · simp at h

theorem slice?_split {a b : Nat} {piece : String} (h : slice? text a b = some piece) :
    ∃ left right, text = left ++ piece ++ right ∧ left.utf8ByteSize = a ∧
      left.utf8ByteSize + piece.utf8ByteSize = b := by
  unfold slice? at h
  split at h
  · split at h
    · rename_i P Q hP hQ
      have hpiece : text.extract P Q = piece := Option.some.inj h
      have hPa := pos?_offset hP
      have hQb := pos?_offset hQ
      have hle : P ≤ Q := by
        rw [String.Pos.le_iff, String.Pos.Raw.le_iff]
        omega
      obtain ⟨left, right, hl, hr⟩ := String.copy_slice_eq_iff_splits.1
        ⟨hle, (String.extract_eq_copy_slice P Q hle).symm.trans hpiece⟩
      have hlo := congrArg String.Pos.Raw.byteIdx hl.offset_eq_rawEndPos
      have hro := congrArg String.Pos.Raw.byteIdx hr.offset_eq_rawEndPos
      simp only [String.byteIdx_rawEndPos, String.utf8ByteSize_append] at hlo hro
      exact ⟨left, right, hl.eq_append.trans (String.append_assoc ..).symm, by omega, by omega⟩
    · cases h
  · cases h

theorem dropTrailingCR_sliceOr {a b : Nat} (h : ∀ k, a ≤ k → k < b → byteAt? text k ≠ some 13) :
    String.ofList ((sliceOr text a b).toList.reverse.dropWhile (· == '\r')).reverse =
      sliceOr text a b := by
  unfold sliceOr
  cases hs : slice? text a b with
  | none => rfl
  | some piece =>
    obtain ⟨left, right, htext, hleft, hend⟩ := slice?_split hs
    simp only [Option.getD_some]
    cases hrev : piece.toList.reverse with
    | nil => simp [String.toList_eq_nil_iff.1 (List.reverse_eq_nil_iff.1 hrev)]
    | cons c cs =>
      by_cases hc : c = '\r'
      · exfalso
        subst hc
        have hpiece : piece = String.ofList cs.reverse ++ "\r" := by
          rw [← String.toList_inj, String.toList_append, String.toList_ofList,
            ← List.reverse_reverse piece.toList, hrev, List.reverse_cons]
          rfl
        have hcr : "\r".utf8ByteSize = 1 := by decide
        have hsize : piece.utf8ByteSize = (String.ofList cs.reverse).utf8ByteSize + 1 := by
          rw [hpiece, String.utf8ByteSize_append, hcr]
        have hbyte : byteAt? text (left.utf8ByteSize + (String.ofList cs.reverse).utf8ByteSize) =
            some 13 := by
          have hsplit : text = (left ++ String.ofList cs.reverse) ++ ("\r" ++ right) := by
            rw [htext, hpiece]
            simp only [String.append_assoc]
          rw [hsplit, ← String.utf8ByteSize_append, ← Nat.add_zero (left ++ _).utf8ByteSize,
            byteAt?_append_right, byteAt?_append_left _ (by rw [hcr]; decide)]
          decide
        exact h _ (by omega) (by omega) hbyte
      · rw [List.dropWhile_cons_of_neg (by simpa using hc), ← hrev, List.reverse_reverse,
          String.ofList_toList]

/-! ### The `#!` line on both sides -/

theorem charAt?_zero (text : String) : charAt? text 0 = text.toList.head? :=
  charAt?_of_eq_append (String.empty_append (s := text)).symm

theorem shebang_marks (bom rest : String) :
    byteIs (bom ++ "#!" ++ rest) bom.utf8ByteSize '#' = true ∧
      byteIs (bom ++ "#!" ++ rest) (bom.utf8ByteSize + 1) '!' = true := by
  have hsize : "#!".utf8ByteSize = 2 := by decide
  have hmark : ∀ k, k < 2 →
      byteAt? (bom ++ "#!" ++ rest) (bom.utf8ByteSize + k) = byteAt? "#!" k := by
    intro k hk
    rw [String.append_assoc, byteAt?_append_right, byteAt?_append_left _ (hsize ▸ hk)]
  unfold byteIs
  rw [← Nat.add_zero bom.utf8ByteSize, hmark 0 (by decide), Nat.add_zero, hmark 1 (by decide)]
  decide

theorem bom_tests {bom rest : String} (hbom : bom = "" ∨ bom = "\uFEFF") :
    (charAt? (bom ++ "#!" ++ rest) 0 == some '\uFEFF') = (bom.utf8ByteSize == 3) ∧
      (bom ++ "#!" ++ rest).startsWith "\uFEFF" = (bom.utf8ByteSize == 3) ∧
      (bom.utf8ByteSize = 0 ∨ bom.utf8ByteSize = 3) := by
  have hsize : "\uFEFF".utf8ByteSize = 3 := by decide
  rw [charAt?_zero]
  rcases hbom with rfl | rfl
  · simp
  · simp [hsize]

end Text

open Text

theorem skipShebang_new_pos {text : String} {start : Nat}
    (hstart : (charAt? text 0 == some '\uFEFF') = (start == 3) ∧ (start = 0 ∨ start = 3))
    (hhash : byteIs text start '#' = true) (hbang : byteIs text (start + 1) '!' = true) :
    (Scanner.new text).skipShebang.pos = findByteFrom text 0 isNewlineByte := by
  simp only [Scanner.skipShebang, Scanner.new, Scanner.charAt?, Scanner.byteIs, hstart.1]
  rcases hstart.2 with rfl | rfl
  · simp [hhash, hbang]
  · simp [hhash, hbang]

theorem shebangLayout_of_marks {text : String} {start : Nat}
    (hstart : text.startsWith "\uFEFF" = (start == 3) ∧ (start = 0 ∨ start = 3))
    (hhash : byteIs text start '#' = true) (hbang : byteIs text (start + 1) '!' = true) :
    shebangLayout text = (if start = 3 then [.zeroWidth "\uFEFF", .skipCommentsTo 3] else []) ++
      [.text (String.ofList ((sliceOr text start (findByteFrom text 0 (· == 10))).toList.reverse.dropWhile
          (· == '\r')).reverse),
        .newline, .skipCommentsTo (findByteFrom text 0 (· == 10))] := by
  simp only [shebangLayout, hstart.1]
  rcases hstart.2 with rfl | rfl
  · simp [hhash, hbang]
  · simp [hhash, hbang]

theorem shebangLayout_bom {bom : String} (hbom : bom = "" ∨ bom = "\uFEFF") :
    shebangLayout bom =
      if bom.utf8ByteSize = 3 then [.zeroWidth "\uFEFF", .skipCommentsTo 3] else [] := by
  rcases hbom with rfl | rfl
  · rfl
  · have hb : byteIs "\uFEFF" 3 '#' = false := by decide
    have hsize : "\uFEFF".utf8ByteSize = 3 := by decide
    simp [shebangLayout, hb, hsize]

/-- The printer writes the `#!` line that the scanner skipped, and counts comments as written up
to where the scanner resumes, exactly when the line is not ended by a carriage return. The text is
an optional byte order mark, then `#!` and the rest; the printer writes the byte order mark as it
would alone. -/
theorem shebangLayout_matches_scanner_iff (bom rest : String) (hbom : bom = "" ∨ bom = "\uFEFF") :
    shebangLayout (bom ++ "#!" ++ rest) = shebangLayout bom ++
        [.text (sliceOr (bom ++ "#!" ++ rest) bom.utf8ByteSize
            (Scanner.new (bom ++ "#!" ++ rest)).skipShebang.pos),
          .newline, .skipCommentsTo (Scanner.new (bom ++ "#!" ++ rest)).skipShebang.pos] ↔
      byteIs (bom ++ "#!" ++ rest) (Scanner.new (bom ++ "#!" ++ rest)).skipShebang.pos '\r' =
        false := by
  obtain ⟨hscan, hprint, hstart⟩ := @bom_tests bom rest hbom
  obtain ⟨hhash, hbang⟩ := shebang_marks bom rest
  rw [skipShebang_new_pos ⟨hscan, hstart⟩ hhash hbang, shebangLayout_of_marks ⟨hprint, hstart⟩
    hhash hbang, shebangLayout_bom hbom]
  generalize bom ++ "#!" ++ rest = text at *
  constructor
  · intro h
    simp only [List.append_cancel_left_eq, List.cons.injEq, Piece.skipCommentsTo.injEq] at h
    exact findByteFrom_lineFeed_eq_iff.1 h.2.2.1
  · intro hcr
    rw [findByteFrom_lineFeed_eq_iff.2 hcr]
    rw [dropTrailingCR_sliceOr fun k _ hk hb => by
      simpa [hb, isNewlineByte] using any_eq_false_of_lt_findByteFrom (Nat.zero_le k) hk]

theorem shebangLayout_matches_scanner_iff_lineFeed :
    ("" = "" ∨ "" = "\uFEFF") ∧
      (shebangLayout ("" ++ "#!" ++ "node\n") = shebangLayout "" ++
          [.text (sliceOr ("" ++ "#!" ++ "node\n") "".utf8ByteSize
              (Scanner.new ("" ++ "#!" ++ "node\n")).skipShebang.pos),
            .newline, .skipCommentsTo (Scanner.new ("" ++ "#!" ++ "node\n")).skipShebang.pos] ↔
        byteIs ("" ++ "#!" ++ "node\n") (Scanner.new ("" ++ "#!" ++ "node\n")).skipShebang.pos
          '\r' = false) :=
  ⟨Or.inl rfl, shebangLayout_matches_scanner_iff "" "node\n" (Or.inl rfl)⟩

/-- After a lone carriage return in the `#!` line, the scanner resumes right after `#!a`, while
the printer copies the line up to the line feed, so `b;` is written as part of the line and
printed again as the file's statement. -/
theorem print_repeats_text_after_carriage_return :
    (Scanner.new "#!a\rb;\n").skipShebang.pos = 3 ∧
      (parseFile "input.ts" "#!a\rb;\n").1.print {} = "#!a\rb;\nb;\n" := by
  decide +kernel

end ParamNarrow
