import ParamNarrow.Text.LineMap
import ParamNarrow.Proofs.TextSplits
import Mathlib.Data.String.Basic
/-!
# Lines and columns

A line starts at offset 0 and after every line break: a line feed, a carriage return and a line
feed (one break, ended by the line feed), or a carriage return alone. Said of the characters of a
text (`EndsLineBreak`), these are the starts `LineMap.build` computes (`build_starts`), so a text
has one line more than it has line breaks.

An offset, clamped to the text, falls on the last line start at or before it, and its column is
the number of characters that start between that line start and the offset, when the offset is a
character boundary. Inside a multi-byte character there is no slice to count, and the column is 0
(`LineMap.build_lines_and_columns`).
-/

namespace ParamNarrow.Text

/-! ### Line breaks of a list of characters -/

/-- The offset at which character `i` of `cs` starts; past the end, the size of `cs`. -/
def charOffset (cs : List Char) (i : Nat) : Nat :=
  String.utf8Len (cs.take i)

/-- Character `i` of `cs` ends a line break: a line feed, or a carriage return that no line feed
follows. -/
def EndsLineBreak (cs : List Char) (i : Nat) : Prop :=
  cs[i]? = some '\n' ∨ (cs[i]? = some '\r' ∧ cs[i + 1]? ≠ some '\n')

instance (cs : List Char) : DecidablePred (EndsLineBreak cs) :=
  fun _ => inferInstanceAs (Decidable (_ ∨ _))

/-- The indices of the characters that end line breaks, in order. -/
def lineBreakEnds (cs : List Char) : List Nat :=
  (List.range cs.length).filter fun i => decide (EndsLineBreak cs i)

/-- The line starts: 0, and the offset after each line break. -/
def lineStarts (cs : List Char) : List Nat :=
  0 :: (lineBreakEnds cs).map fun i => charOffset cs (i + 1)

/-- The number of characters that start at an offset in `[start, stop)`. -/
def charsStartingIn (cs : List Char) (start stop : Nat) : Nat :=
  ((List.range cs.length).filter fun i => start ≤ charOffset cs i && charOffset cs i < stop).length

variable {c : Char} {cs : List Char} {i j k : Nat}

@[simp] theorem lineFeed_utf8Size : '\n'.utf8Size = 1 := by decide

@[simp] theorem carriageReturn_utf8Size : '\r'.utf8Size = 1 := by decide

@[simp] theorem charOffset_zero : charOffset cs 0 = 0 := by
  simp [charOffset]

theorem charOffset_cons_succ : charOffset (c :: cs) (i + 1) = c.utf8Size + charOffset cs i := by
  simp only [charOffset, List.take_succ_cons, String.utf8Len_cons]
  omega

theorem endsLineBreak_cons_succ : EndsLineBreak (c :: cs) (i + 1) ↔ EndsLineBreak cs i := by
  simp [EndsLineBreak]

theorem lineBreakEnds_cons :
    lineBreakEnds (c :: cs) =
      (if EndsLineBreak (c :: cs) 0 then [0] else []) ++ (lineBreakEnds cs).map (· + 1) := by
  unfold lineBreakEnds
  rw [List.length_cons, List.range_succ_eq_map, List.filter_cons, List.filter_map]
  have hshift : ((fun i => decide (EndsLineBreak (c :: cs) i)) ∘ Nat.succ) =
      fun i => decide (EndsLineBreak cs i) := by
    funext i
    simp [endsLineBreak_cons_succ]
  rw [hshift]
  split <;> simp_all

theorem lineStartsFrom_eq (cs : List Char) (off : Nat) :
    lineStartsFrom cs off = (lineBreakEnds cs).map fun i => off + charOffset cs (i + 1) := by
  fun_induction lineStartsFrom cs off with
  | case1 off => simp [lineBreakEnds]
  | case2 rest off ih =>
    rw [ih, lineBreakEnds_cons, lineBreakEnds_cons]
    simp [EndsLineBreak, charOffset_cons_succ, Function.comp_def]
    omega
  | case3 rest off ih =>
    rw [ih, lineBreakEnds_cons]
    simp [EndsLineBreak, charOffset_cons_succ, Function.comp_def]
    omega
  | case4 rest off h ih =>
    have hnext : rest[0]? ≠ some '\n' := by
      cases rest with
      | nil => simp
      | cons d r => simpa using fun hd => h r (by rw [hd])
    rw [ih, lineBreakEnds_cons]
    simp [EndsLineBreak, charOffset_cons_succ, Function.comp_def, hnext, Nat.add_assoc]
  | case5 c rest off _ hlf hcr ih =>
    have hend : ¬ EndsLineBreak (c :: rest) 0 := fun hend =>
      hend.elim (fun h => hlf (by simpa using h)) (fun h => hcr (by simpa using h.1))
    rw [ih, lineBreakEnds_cons, if_neg hend]
    simp [charOffset_cons_succ, Nat.add_assoc]

theorem build_starts (s : String) : (LineMap.build s).starts = lineStarts s.toList := by
  simp [LineMap.build, lineStarts, lineStartsFrom_eq]

theorem lineCount_build (s : String) :
    (LineMap.build s).lineCount = 1 + (lineBreakEnds s.toList).length := by
  simp [LineMap.lineCount, build_starts, lineStarts, Nat.add_comm]

/-! ### Offsets of characters -/

theorem charOffset_le_of_le (h : i ≤ j) : charOffset cs i ≤ charOffset cs j :=
  String.utf8Len_le_of_prefix ((List.take_prefix_take_left h))

theorem charOffset_lt_of_lt (h : i < j) (hj : j ≤ cs.length) : charOffset cs i < charOffset cs j := by
  have hsplit : cs.take j = cs.take i ++ (cs.drop i).take (j - i) := by
    rw [← List.take_add, Nat.add_sub_cancel' (Nat.le_of_lt h)]
  have hne : (cs.drop i).take (j - i) ≠ [] := by
    simp only [ne_eq, List.take_eq_nil_iff, List.drop_eq_nil_iff]
    omega
  have hpos : 0 < String.utf8Len ((cs.drop i).take (j - i)) :=
    Nat.pos_of_ne_zero (fun h0 => hne (String.utf8Len_eq_zero.1 h0))
  simp only [charOffset, hsplit, String.utf8Len_append]
  omega

theorem charOffset_lt_iff (hj : j ≤ cs.length) : charOffset cs i < charOffset cs j ↔ i < j :=
  ⟨fun h => Nat.lt_of_not_le fun hji => Nat.not_le_of_lt h (charOffset_le_of_le hji),
    fun h => charOffset_lt_of_lt h hj⟩

theorem charOffset_le_iff (hi : i ≤ cs.length) : charOffset cs i ≤ charOffset cs j ↔ i ≤ j := by
  rw [← Nat.not_lt, charOffset_lt_iff hi, Nat.not_lt]

theorem charOffset_le_size : charOffset cs i ≤ String.utf8Len cs :=
  String.utf8Len_le_of_prefix (List.take_prefix _ _)

/-! ### Line starts in order -/

theorem lt_length_of_mem_lineBreakEnds (h : i ∈ lineBreakEnds cs) : i < cs.length := by
  simpa [lineBreakEnds] using (List.mem_filter.1 h).1

/-- Line starts increase strictly. -/
theorem lineStarts_pairwise (cs : List Char) : (lineStarts cs).Pairwise (· < ·) := by
  refine List.pairwise_cons.2 ⟨?_, ?_⟩
  · intro x hx
    obtain ⟨i, hi, rfl⟩ := List.mem_map.1 hx
    simpa using charOffset_lt_of_lt (Nat.succ_pos i) (lt_length_of_mem_lineBreakEnds hi)
  · rw [List.pairwise_map]
    exact ((List.pairwise_lt_range).filter _).imp_of_mem fun _ hj hij =>
      charOffset_lt_of_lt (Nat.succ_lt_succ hij) (lt_length_of_mem_lineBreakEnds hj)

theorem lineStarts_le_size : ∀ x ∈ lineStarts cs, x ≤ String.utf8Len cs := by
  intro x hx
  rcases List.mem_cons.1 hx with rfl | hx
  · exact Nat.zero_le _
  · obtain ⟨i, -, rfl⟩ := List.mem_map.1 hx
    exact charOffset_le_size

theorem exists_charOffset_of_mem_lineStarts {x : Nat} (hx : x ∈ lineStarts cs) :
    ∃ j ≤ cs.length, charOffset cs j = x := by
  rcases List.mem_cons.1 hx with rfl | hx
  · exact ⟨0, Nat.zero_le _, charOffset_zero⟩
  · obtain ⟨i, hi, rfl⟩ := List.mem_map.1 hx
    exact ⟨i + 1, lt_length_of_mem_lineBreakEnds hi, rfl⟩

theorem exists_last_le_of_pairwise {l : List Nat} {m : Nat} (hl : l.Pairwise (· < ·))
    (hpos : 0 < (l.filter (· ≤ m)).length) :
    ∃ x, l[(l.filter (· ≤ m)).length - 1]? = some x ∧ x ≤ m ∧
      ∀ y ∈ l.drop (l.filter (· ≤ m)).length, m < y := by
  induction l with
  | nil => simp at hpos
  | cons a rest ih =>
    obtain ⟨ha, hrest⟩ := List.pairwise_cons.1 hl
    by_cases ham : a ≤ m
    · rw [List.filter_cons_of_pos (by simpa using ham), List.length_cons]
      by_cases hk : 0 < (rest.filter (· ≤ m)).length
      · obtain ⟨x, hx, hxm, hafter⟩ := ih hrest hk
        refine ⟨x, ?_, hxm, by simpa using hafter⟩
        rw [Nat.add_sub_cancel, ← Nat.sub_add_cancel hk, List.getElem?_cons_succ]
        exact hx
      · have hzero : (rest.filter (· ≤ m)).length = 0 := Nat.eq_zero_of_not_pos hk
        have hnone := List.filter_eq_nil_iff.1 (List.eq_nil_of_length_eq_zero hzero)
        rw [hzero]
        refine ⟨a, rfl, ham, fun y hy => ?_⟩
        simpa using hnone y (by simpa using hy)
    · have hnone : (a :: rest).filter (· ≤ m) = [] := by
        refine List.filter_eq_nil_iff.2 fun y hy => ?_
        rcases List.mem_cons.1 hy with rfl | hy
        · simpa using ham
        · have := ha y hy
          simp only [decide_eq_true_eq]
          omega
      simp [hnone] at hpos

/-! ### Counting the characters of a slice -/

theorem length_filter_range_between (n j k : Nat) :
    ((List.range n).filter fun i => j ≤ i && i < k).length = min n k - j := by
  induction n with
  | zero => simp
  | succ n ih =>
    rw [List.range_succ, List.filter_append, List.length_append, ih]
    by_cases h : j ≤ n ∧ n < k
    · simp only [List.filter_cons, List.filter_nil, h.1, h.2, decide_true, Bool.and_self,
        if_true, List.length_singleton]
      omega
    · rw [List.filter_eq_nil_iff.2 (by simpa using fun hj => Nat.le_of_not_lt fun hk => h ⟨hj, hk⟩)]
      simp only [List.length_nil, Nat.add_zero]
      omega

theorem charsStartingIn_charOffsets (hjk : j ≤ k) (hk : k ≤ cs.length) :
    charsStartingIn cs (charOffset cs j) (charOffset cs k) = k - j := by
  unfold charsStartingIn
  rw [List.filter_congr fun i hi => ?_, length_filter_range_between, Nat.min_eq_right hk]
  have hi : i ≤ cs.length := Nat.le_of_lt (List.mem_range.1 hi)
  simp only [charOffset_lt_iff hk, charOffset_le_iff (Nat.le_trans hjk hk)]

/-! ### Slices between offsets -/

theorem slice?_charOffsets (hjk : j ≤ k) :
    slice? (String.ofList cs) (charOffset cs j) (charOffset cs k) =
      some (String.ofList ((cs.drop j).take (k - j))) := by
  have hcs : cs = cs.take j ++ (cs.drop j).take (k - j) ++ cs.drop k := by
    rw [← List.take_add, Nat.add_sub_cancel' hjk, List.take_append_drop]
  have htext : String.ofList cs = String.ofList (cs.take j) ++
      String.ofList ((cs.drop j).take (k - j)) ++ String.ofList (cs.drop k) := by
    rw [← String.ofList_append, ← String.ofList_append, ← hcs]
  have hstart : charOffset cs j = (String.ofList (cs.take j)).utf8ByteSize :=
    (String.utf8ByteSize_ofList _).symm
  have hstop : charOffset cs k = (String.ofList (cs.take j)).utf8ByteSize +
      (String.ofList ((cs.drop j).take (k - j))).utf8ByteSize := by
    rw [String.utf8ByteSize_ofList, String.utf8ByteSize_ofList, ← String.utf8Len_append,
      ← List.take_add, Nat.add_sub_cancel' hjk]
    rfl
  rw [hstart, hstop, htext]
  exact slice?_append _ _ _

theorem slice?_of_not_isValid {text : String} {start stop : Nat}
    (h : ¬ (String.Pos.Raw.mk stop).IsValid text) : slice? text start stop = none := by
  have hnone : text.pos? ⟨stop⟩ = none := by
    unfold String.pos? String.Slice.pos?
    rw [dif_neg (by simpa [String.Pos.Raw.isValidForSlice_eq_true_iff] using h)]
    rfl
  unfold slice?
  split
  · rw [hnone]
    cases text.pos? ⟨start⟩ <;> rfl
  · rfl

/-! ### Lines and columns of the map -/

theorem position_line (s : String) (o : Nat) :
    ((LineMap.build s).position s o).line =
      ((lineStarts s.toList).filter (· ≤ min o s.utf8ByteSize)).length - 1 := by
  have hfilter : (lineStarts s.toList).filter (· ≤ o) =
      (lineStarts s.toList).filter (· ≤ min o s.utf8ByteSize) := by
    refine List.filter_congr fun x hx => ?_
    have := lineStarts_le_size x hx
    rw [String.utf8Len_toList] at this
    simp only [decide_eq_decide]
    omega
  simp [LineMap.position, LineMap.lineOf, build_starts, hfilter]

theorem position_character (s : String) (o : Nat) :
    ((LineMap.build s).position s o).character =
      ((slice? s (min ((lineStarts s.toList).getD ((LineMap.build s).position s o).line 0)
        (min o s.utf8ByteSize)) (min o s.utf8ByteSize)).map String.length).getD 0 := by
  simp [LineMap.position, LineMap.lineOf, build_starts]

/-- The line map has one line more than the text has line breaks. An offset, clamped to the text,
is put on the last line start at or before it; its column is the number of characters that start
from that line start up to the offset when the offset is a character boundary, and 0 when it
falls inside a character. -/
theorem LineMap.build_lines_and_columns (s : String) :
    (LineMap.build s).lineCount = 1 + (lineBreakEnds s.toList).length ∧
    ∀ o : Nat, ∃ start,
      (lineStarts s.toList)[((LineMap.build s).position s o).line]? = some start ∧
      start ≤ min o s.utf8ByteSize ∧
      (∀ later ∈ (lineStarts s.toList).drop (((LineMap.build s).position s o).line + 1),
        min o s.utf8ByteSize < later) ∧
      ((LineMap.build s).position s o).character =
        if (String.Pos.Raw.mk (min o s.utf8ByteSize)).IsValid s then
          charsStartingIn s.toList start (min o s.utf8ByteSize)
        else 0 := by
  refine ⟨lineCount_build s, fun o => ?_⟩
  have hpos : 0 < ((lineStarts s.toList).filter (· ≤ min o s.utf8ByteSize)).length :=
    List.length_pos_of_mem (List.mem_filter.2 ⟨List.mem_cons_self .., by simp⟩)
  obtain ⟨start, hstart, hle, hafter⟩ :=
    exists_last_le_of_pairwise (lineStarts_pairwise s.toList) hpos
  rw [← position_line] at hstart
  refine ⟨start, hstart, hle, by rwa [position_line, Nat.sub_add_cancel hpos], ?_⟩
  rw [position_character, List.getD_eq_getElem?_getD, hstart, Option.getD_some,
    Nat.min_eq_left hle]
  split
  · next hvalid =>
    obtain ⟨i, hi⟩ := String.Pos.Raw.isValid_iff_exists_take_toList.1 hvalid
    have hk : charOffset s.toList (min i s.toList.length) = min o s.utf8ByteSize := by
      rw [charOffset, ← List.take_eq_take_min, ← String.utf8ByteSize_ofList, ← hi]
    obtain ⟨j, hj, rfl⟩ := exists_charOffset_of_mem_lineStarts (List.mem_of_getElem? hstart)
    have hjk : j ≤ min i s.toList.length := (charOffset_le_iff hj).1 (hk ▸ hle)
    have hslice := @slice?_charOffsets s.toList j (min i s.toList.length) hjk
    rw [String.ofList_toList, hk] at hslice
    rw [hslice, ← hk, charsStartingIn_charOffsets hjk (Nat.min_le_right _ _)]
    simp only [Option.map_some, Option.getD_some, String.length_ofList, List.length_take,
      List.length_drop]
    omega
  · next hinside =>
    rw [slice?_of_not_isValid hinside]
    rfl

/-- An offset inside a character is put at column 0, though a character starts before it on its
line. -/
theorem position_inside_character :
    (LineMap.build "é").position "é" 1 = ⟨0, 0⟩ ∧ charsStartingIn "é".toList 0 1 = 1 := by
  decide

end ParamNarrow.Text
