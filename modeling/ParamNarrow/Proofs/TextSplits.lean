import ParamNarrow.Proofs.ScannerProgress
/-!
# A text read as two parts

The scanner looks at its text through byte offsets: `Text.charAt?`, `Text.byteAt?` and
`Text.slice?`. Where the text is known to be `a ++ b`, what it sees at the offset
`a.utf8ByteSize` is the start of `b`: the character there is the first of `b`
(`charAt?_of_eq_append`), the bytes from there on are those of `b` (`byteAt?_append_right`), and
the slice that spans `b` is `b` (`slice?_append`). A scanning loop over a text then becomes an
induction over the characters still to be read, with the part already read on the left.

The first byte of a character is ASCII only for a character of one byte
(`utf8EncodeChar_head_ge`), so a byte test at an offset where a character starts tells that
character's class apart.
-/

namespace ParamNarrow.Text

theorem pos?_of_isValid {s : String} {p : String.Pos.Raw} (h : p.IsValid s) :
    s.pos? p = some (s.pos p h) := by
  unfold String.pos? String.Slice.pos?
  rw [dif_pos (by simpa [String.Pos.Raw.isValidForSlice_eq_true_iff] using h.toSlice)]
  rfl

theorem get?_of_splits {s t₁ t₂ : String} {p : s.Pos} (h : p.Splits t₁ t₂) :
    p.get? = t₂.toList.head? := by
  cases ht : t₂.toList with
  | nil =>
    have he : t₂ = "" := String.toList_eq_nil_iff.1 ht
    exact String.Pos.get?_eq_none ((h.eq_endPos_iff).2 he)
  | cons c rest =>
    have he : t₂ = String.singleton c ++ String.ofList rest := by
      rw [← String.toList_inj]
      simp [ht]
    rw [he] at h
    rw [String.Pos.get?_eq_some_get h.ne_endPos_of_singleton, h.next.get_eq_of_singleton]
    rfl

theorem charAt?_append (a b : String) : charAt? (a ++ b) a.utf8ByteSize = b.toList.head? := by
  have hv : (String.Pos.Raw.mk a.utf8ByteSize).IsValid (a ++ b) :=
    String.Pos.Raw.isValid_rawEndPos.append_right b
  unfold charAt?
  rw [pos?_of_isValid hv, Option.bind_some]
  exact get?_of_splits String.Pos.splits_append_rawEndPos

theorem charAt?_of_eq_append {text a b : String} (h : text = a ++ b) :
    charAt? text a.utf8ByteSize = b.toList.head? := by
  rw [h, charAt?_append]

@[simp] theorem charAt?_size (text : String) : charAt? text text.utf8ByteSize = none := by
  simpa using charAt?_of_eq_append (String.append_empty (s := text)).symm

theorem byteAt?_append_right (a b : String) (k : Nat) :
    byteAt? (a ++ b) (a.utf8ByteSize + k) = byteAt? b k := by
  unfold byteAt?
  by_cases hk : k < b.utf8ByteSize
  · have hk' : a.utf8ByteSize + k < (a ++ b).utf8ByteSize := by
      simp only [String.utf8ByteSize_append]; omega
    rw [dif_pos hk', dif_pos hk]
    simp only [String.getUTF8Byte_eq_getElem, String.toByteArray_append, Option.some.injEq]
    rw [ByteArray.getElem_append_right (by simp)]
    simp
  · have hk' : ¬ a.utf8ByteSize + k < (a ++ b).utf8ByteSize := by
      simp only [String.utf8ByteSize_append]; omega
    rw [dif_neg hk', dif_neg hk]

theorem byteAt?_append_left {a : String} (b : String) {k : Nat} (hk : k < a.utf8ByteSize) :
    byteAt? (a ++ b) k = byteAt? a k := by
  unfold byteAt?
  have hk' : k < (a ++ b).utf8ByteSize := by
    simp only [String.utf8ByteSize_append]; omega
  rw [dif_pos hk', dif_pos hk]
  simp only [String.getUTF8Byte_eq_getElem, String.toByteArray_append, Option.some.injEq]
  rw [ByteArray.getElem_append_left (by simpa using hk)]

/-- The slice between the ends of `a` and of `a ++ b` is `b`. -/
theorem slice?_append (a b c : String) :
    slice? (a ++ b ++ c) a.utf8ByteSize (a.utf8ByteSize + b.utf8ByteSize) = some b := by
  have hstart : (String.Pos.Raw.mk a.utf8ByteSize).IsValid (a ++ b ++ c) :=
    (String.Pos.Raw.isValid_rawEndPos.append_right b).append_right c
  have hstop : (String.Pos.Raw.mk (a.utf8ByteSize + b.utf8ByteSize)).IsValid (a ++ b ++ c) := by
    have h := (String.Pos.Raw.isValid_rawEndPos (s := a ++ b)).append_right c
    have he : (a ++ b).rawEndPos = ⟨a.utf8ByteSize + b.utf8ByteSize⟩ := by
      simp [String.Pos.Raw.ext_iff]
    rwa [he] at h
  have hsplit_start : ((a ++ b ++ c).pos _ hstart).Splits a (b ++ c) :=
    ⟨String.append_assoc, rfl⟩
  have hsplit_stop : ((a ++ b ++ c).pos _ hstop).Splits (a ++ b) c :=
    ⟨rfl, by simp [String.Pos.Raw.ext_iff]⟩
  obtain ⟨hle, hcopy⟩ := String.copy_slice_eq_iff_splits.2 ⟨a, c, hsplit_start, hsplit_stop⟩
  unfold slice?
  rw [if_pos (Nat.le_add_right _ _), pos?_of_isValid hstart, pos?_of_isValid hstop]
  simp only [Option.some.injEq]
  rw [String.extract_eq_copy_slice _ _ hle, hcopy]

theorem sliceOr_append (a b c : String) :
    sliceOr (a ++ b ++ c) a.utf8ByteSize (a.utf8ByteSize + b.utf8ByteSize) = b := by
  simp [sliceOr, slice?_append]

/-! ### The first byte of a character -/

theorem utf8EncodeChar_head_ge {c : Char} (h : c.utf8Size ≠ 1) :
    ∃ b, (String.utf8EncodeChar c)[0]? = some b ∧ 128 ≤ b.toNat := by
  have hv : ¬ c.val.toNat ≤ 0x7f := by
    intro hle
    exact h (Char.utf8Size_eq_one_iff.2 (by simpa [UInt32.le_iff_toNat_le] using hle))
  unfold String.utf8EncodeChar
  simp only [hv, ite_false]
  split
  · exact ⟨_, rfl, by simp only [UInt8.toNat_ofNat']; omega⟩
  · split
    · exact ⟨_, rfl, by simp only [UInt8.toNat_ofNat']; omega⟩
    · exact ⟨_, rfl, by simp only [UInt8.toNat_ofNat']; omega⟩

theorem byteAt?_of_charAt?_head {text : String} {p : Nat} {c : Char} (h : charAt? text p = some c) :
    byteAt? text p = (String.utf8EncodeChar c)[0]? := by
  obtain ⟨q, hq, rfl, rfl⟩ := charAt?_eq_some h
  have hlt := String.Pos.byteIdx_lt_utf8ByteSize q hq
  have henc := String.Slice.Pos.utf8Encode_get_eq_extract q.toSlice (by simpa using hq)
  simp only [String.Pos.get_toSlice, String.str_toSlice, String.startInclusive_toSlice,
    String.offset_startPos, String.Pos.Raw.byteIdx_zero, Nat.zero_add,
    String.Pos.offset_toSlice, List.utf8Encode_singleton] at henc
  obtain ⟨b, rest, hbr⟩ := List.exists_cons_of_ne_nil (String.utf8EncodeChar_ne_nil (c := q.get hq))
  rw [hbr] at henc ⊢
  have hpos := (q.get hq).utf8Size_pos
  have hsize : 0 < (text.toByteArray.extract q.offset.byteIdx
      (q.offset.byteIdx + (q.get hq).utf8Size)).size := by
    simp only [ByteArray.size_extract, String.size_toByteArray]
    omega
  have hlt' : q.offset.byteIdx < text.toByteArray.size := by simpa using hlt
  have h0 : b = text.toByteArray[q.offset.byteIdx] := by
    have := congrArg (fun a : ByteArray => a[0]!) henc
    simp only [List.size_toByteArray, List.length_cons, Nat.zero_lt_succ, getElem!_pos,
      List.getElem_toByteArray, List.getElem_cons_zero] at this
    rw [getElem!_pos _ 0 hsize, ByteArray.getElem_extract] at this
    simpa using this
  simp only [byteAt?, hlt, dif_pos, List.getElem?_cons_zero, h0, String.getUTF8Byte_eq_getElem]

theorem utf8Size_eq_one_of_byteAt? {text : String} {p : Nat} {c : Char} {b : UInt8}
    (hc : charAt? text p = some c) (hb : byteAt? text p = some b) (hascii : b.toNat < 128) :
    c.utf8Size = 1 := by
  refine Decidable.byContradiction fun hne => ?_
  obtain ⟨b', hb', hge⟩ := utf8EncodeChar_head_ge hne
  rw [byteAt?_of_charAt?_head hc, hb'] at hb
  cases hb
  omega

end ParamNarrow.Text
