import Mathlib.Logic.Relation
import ParamNarrow.Proofs.ScannerTiling
/-!
# Snapshots of the scanner

A snapshot of the scanner is the scanner itself; going back to it keeps the snapshot's fields and
cuts the error and comment lists of the current scanner back to their lengths at the snapshot
(`restore`). Going back is exact when both lists of the snapshot are prefixes of the current ones
(`restore_of_keeps`). Errors are only ever added. Comments are added too, but a line break marks
the last comment recorded as ending its line, in place, and that comment may be older than the
snapshot.

The last comment of every scanner reached from a fresh one is `Sealed`: its mark is set already,
or a byte other than a space or a tab stands between it and the current token, or the scanner
stands at the end of the text and can only read the end of the file again. No step can mark a
sealed comment, so every step from a reached scanner only extends its lists, and going back to
any snapshot taken on the way is exact (`restore_after_moves`).
-/

namespace ParamNarrow

namespace Scanner

open Text

/-- One step a scanning session may take between snapshots: read a token, skip the shebang, or
read the current token again in another way. -/
inductive Move : Scanner → Scanner → Prop
  | scan (s : Scanner) : Move s s.scan
  | shebang (s : Scanner) : Move s s.skipShebang
  | greater (s : Scanner) : Move s s.rescanGreater
  | slash (s : Scanner) : Move s s.rescanSlash
  | template (s : Scanner) : Move s s.rescanTemplate

/-- The lists that a snapshot cuts back only grew: the errors and comments of `s` are prefixes of
those of `t`. -/
structure Keeps (s t : Scanner) : Prop where
  comments_prefix : s.comments.toList <+: t.comments.toList
  errors_prefix : s.errors.toList <+: t.errors.toList

theorem Keeps.refl (s : Scanner) : Keeps s s :=
  ⟨List.prefix_refl _, List.prefix_refl _⟩

theorem Keeps.trans {s t u : Scanner} (h : Keeps s t) (h' : Keeps t u) : Keeps s u :=
  ⟨h.comments_prefix.trans h'.comments_prefix, h.errors_prefix.trans h'.errors_prefix⟩

theorem extract_prefix_eq {α : Type} {a b : Array α} (h : a.toList <+: b.toList) :
    b.extract 0 a.size = a := by
  apply Array.toList_inj.1
  rw [Array.toList_extract, List.extract_eq_drop_take', List.drop_zero, ← Array.length_toList,
    ← List.prefix_iff_eq_take.1 h]

/-- Going back to a snapshot whose lists only grew since gives the snapshot. -/
theorem restore_of_keeps {s t : Scanner} (h : Keeps s t) : t.restore s = s := by
  unfold restore
  rw [extract_prefix_eq h.errors_prefix, extract_prefix_eq h.comments_prefix]

/-! ### The last comment -/

/-- A byte other than a space or a tab stands at `p`. -/
def NotSpaceAt (text : String) (p : Nat) : Prop :=
  ∃ b, Text.byteAt? text p = some b ∧ (b == 32 || b == 9) = false

theorem notSpaceAt_of_charAt? {text : String} {p : Nat} {c : Char} (hc : Text.charAt? text p = some c)
    (hblank : isBlank c = false) : NotSpaceAt text p := by
  obtain ⟨b, rest, henc⟩ := List.exists_cons_of_ne_nil (String.utf8EncodeChar_ne_nil (c := c))
  have hb : Text.byteAt? text p = some b := by
    rw [Text.byteAt?_of_charAt?_head hc, henc]
    rfl
  refine ⟨b, hb, Bool.eq_false_iff.2 fun hspace => ?_⟩
  have hascii : b.toNat < 128 := by
    rcases Bool.or_eq_true_iff.1 hspace with h | h <;> rw [beq_iff_eq.1 h] <;> decide
  have hone := Text.utf8Size_eq_one_of_byteAt? hc hb hascii
  rw [Text.byteAt?_of_charAt? hc hone, Option.some.injEq] at hb
  have hlt : c.val.toNat < 128 := by
    have := Char.utf8Size_eq_one_iff.1 hone
    simp [UInt32.le_iff_toNat_le] at this
    show c.toNat < 128
    omega
  have hval : c.val.toNat = b.toNat := by
    rw [← hb, UInt32.toNat_toUInt8, Nat.mod_eq_of_lt (by omega)]
  have hc' : c = ' ' ∨ c = '\t' := by
    rcases Bool.or_eq_true_iff.1 hspace with h | h <;> rw [beq_iff_eq.1 h] at hval
    · exact .inl (Char.ext (UInt32.toNat_inj.1 hval))
    · exact .inr (Char.ext (UInt32.toNat_inj.1 hval))
  rcases hc' with rfl | rfl <;> simp [isBlank] at hblank

/-- Why the mark of the comment `c`, the last one `s` recorded, can no longer change. -/
inductive Sealed (s : Scanner) (c : Comment) : Prop
  /-- The comment is marked as ending its line. -/
  | marked : c.trailingNewLine = true → Sealed s c
  /-- A byte other than a space or a tab stands after the comment, at or before the token. -/
  | cut (p : Nat) : c.stop ≤ p → p ≤ s.tokenStart → p < s.pos → NotSpaceAt s.text p → Sealed s c
  /-- The end of the file was read at the end of the text. -/
  | atEnd : s.token = .endOfFileToken → s.charAt? s.pos = none → Sealed s c

/-- The last comment recorded, if any, is sealed. -/
def Settled (s : Scanner) : Prop :=
  ∀ c, s.comments.back? = some c → Sealed s c

theorem settled_new (text : String) : (new text).Settled := by
  intro c hc
  simp [new] at hc

/-! ### Marking the last comment -/

theorem markLineEnd_comments (s : Scanner) :
    s.markLineEnd.comments = s.comments ∨
      ∃ c, s.comments.back? = some c ∧
        Text.bytesAll s.text c.stop s.pos (fun b => b == 32 || b == 9) = true ∧
        s.markLineEnd.comments =
          s.comments.modify (s.comments.size - 1) fun c => { c with trailingNewLine := true } := by
  unfold markLineEnd
  split
  · rename_i c hc
    split
    · exact .inr ⟨c, hc, ‹_›, rfl⟩
    · exact .inl rfl
  · exact .inl rfl

theorem bytesAll_of_le {text : String} {start stop p : Nat} {f : UInt8 → Bool} {b : UInt8}
    (h : Text.bytesAll text start stop f = true) (hstart : start ≤ p) (hstop : p < stop)
    (hb : Text.byteAt? text p = some b) : f b = true := by
  unfold Text.bytesAll at h
  simp only [Bool.and_eq_true, decide_eq_true_eq, List.all_eq_true, List.mem_range] at h
  have hk := h.2 (p - start) (by omega)
  rwa [Nat.add_sub_cancel' hstart, hb, Option.any_some] at hk

theorem not_bytesAll_of_notSpaceAt {text : String} {start stop p : Nat} (hstart : start ≤ p)
    (hstop : p < stop) (hp : NotSpaceAt text p) :
    Text.bytesAll text start stop (fun b => b == 32 || b == 9) = false := by
  obtain ⟨b, hb, hspace⟩ := hp
  refine Bool.eq_false_iff.2 fun h => ?_
  have := bytesAll_of_le h hstart hstop hb
  rw [hspace] at this
  exact Bool.false_ne_true this

theorem modify_mark_of_marked {a : Array Comment} {c : Comment} (hc : a.back? = some c)
    (hmark : c.trailingNewLine = true) :
    a.modify (a.size - 1) (fun c => { c with trailingNewLine := true }) = a := by
  apply Array.toList_inj.1
  rw [Array.toList_modify]
  apply List.ext_getElem (by simp)
  intro j h₁ h₂
  rw [List.getElem_modify]
  split
  · rename_i hj
    rw [Array.back?_eq_getElem?, hj, Array.getElem?_eq_getElem (by simpa using h₂)] at hc
    have hget : a.toList[j] = c := by simpa using hc
    rw [hget]
    cases c
    simp_all
  · rfl

theorem prefix_modify {α : Type} {l₁ l₂ : List α} {i : Nat} {f : α → α} (h : l₁ <+: l₂)
    (hi : l₁.length ≤ i) : l₁ <+: l₂.modify i f := by
  rw [List.prefix_iff_eq_take] at h ⊢
  rw [List.take_modify, ← h, List.modify_eq_self hi]

theorem back?_modify_last {α : Type} (a : Array α) (f : α → α) :
    (a.modify (a.size - 1) f).back? = a.back?.map f := by
  rw [Array.back?_eq_getElem?, Array.back?_eq_getElem?, Array.size_modify, Array.getElem?_modify]
  split
  · rfl
  · rename_i hne
    exact absurd rfl hne

/-! ### The loop of `scan` -/

/-- Why the mark of the comment `c`, the last one recorded, cannot change before the loop of
`scan` from `s` ends at `u`: as in `Sealed`, or the comment was recorded in this loop, or no
character is left to read. -/
inductive LoopSealed (s u : Scanner) (c : Comment) : Prop
  | marked : c.trailingNewLine = true → LoopSealed s u c
  | cut (p : Nat) : c.stop ≤ p → p < u.pos → NotSpaceAt u.text p → LoopSealed s u c
  | fresh : s.comments.size < u.comments.size → c.stop ≤ u.pos → LoopSealed s u c
  | atEnd : u.charAt? u.pos = none → LoopSealed s u c

/-- What the loop of `scan` from `s` keeps on its way over trivia up to `u`. -/
structure LoopKeeps (s u : Scanner) : Prop where
  keeps : Keeps s u
  last : ∀ c, u.comments.back? = some c → LoopSealed s u c

theorem LoopKeeps.start {s : Scanner} (hs : Settled s) :
    LoopKeeps s { s with fullStart := s.pos, lineBreakBefore := false, value := "" } := by
  refine ⟨⟨List.prefix_refl _, List.prefix_refl _⟩, fun c hc => ?_⟩
  cases hs c hc with
  | marked hm => exact .marked hm
  | cut p hstop _ hpos hp => exact .cut p hstop hpos hp
  | atEnd _ hn => exact .atEnd hn

theorem LoopKeeps.step {s u v : Scanner} (h : LoopKeeps s u) (hv : Trivia { u with tokenStart := u.pos } v) :
    LoopKeeps s v := by
  have hlt : u.pos < v.pos := hv.pos_lt
  have hchar : u.charAt? u.pos ≠ none := hv.charAt?_ne_none
  have herrors : s.errors.toList <+: v.errors.toList := h.keeps.errors_prefix.trans hv.errors_prefix
  have hsize : s.comments.size ≤ u.comments.size := by
    simpa using h.keeps.comments_prefix.length_le
  have same : v.comments = u.comments → LoopKeeps s v := fun hsame => by
    refine ⟨⟨by rw [hsame]; exact h.keeps.comments_prefix, herrors⟩, fun c hc => ?_⟩
    rw [hsame] at hc
    cases h.last c hc with
    | marked hm => exact .marked hm
    | cut p hstop hpos hp => exact .cut p hstop (by omega) (by rw [hv.text_eq]; exact hp)
    | fresh hfresh hstop => exact .fresh (by rw [hsame]; exact hfresh) (by omega)
    | atEnd hn => exact absurd hn hchar
  rcases hv.comments with hmark | hsame | ⟨⟨multiLine, hpush⟩, -, -⟩
  · rcases markLineEnd_comments { u with tokenStart := u.pos } with hm | ⟨c, hc, hall, hm⟩
    · exact same (hmark.trans hm)
    · dsimp only at hc hall hm
      cases h.last c hc with
      | marked hmarked => exact same (hmark.trans (hm.trans (modify_mark_of_marked hc hmarked)))
      | cut p hstop hpos hp => exact absurd hall (Bool.eq_false_iff.1 (not_bytesAll_of_notSpaceAt hstop hpos hp))
      | fresh hfresh _ =>
        refine ⟨⟨?_, herrors⟩, fun c' hc' => ?_⟩
        · rw [hmark, hm, Array.toList_modify]
          exact prefix_modify h.keeps.comments_prefix (by simp only [Array.length_toList]; omega)
        · rw [hmark, hm, back?_modify_last] at hc'
          have hc'' : u.comments.back? = some c := hc
          rw [hc'', Option.map_some, Option.some.injEq] at hc'
          rw [← hc']
          exact .marked rfl
      | atEnd hn => exact absurd hn hchar
  · exact same hsame
  · dsimp only at hpush
    refine ⟨⟨?_, herrors⟩, fun c hc => ?_⟩
    · rw [hpush, Array.toList_push]
      exact h.keeps.comments_prefix.trans (List.prefix_append _ _)
    · rw [hpush, Array.back?_push, Option.some.injEq] at hc
      rw [← hc]
      exact .fresh (by rw [hpush, Array.size_push]; omega) (Nat.le_refl _)

theorem LoopKeeps.eof {s u : Scanner} (h : LoopKeeps s u) (hn : u.charAt? u.pos = none) :
    Keeps s { u with tokenStart := u.pos, token := .endOfFileToken } ∧
      Settled { u with tokenStart := u.pos, token := .endOfFileToken } :=
  ⟨⟨h.keeps.comments_prefix, h.keeps.errors_prefix⟩, fun _ _ => .atEnd rfl hn⟩

theorem LoopKeeps.token {s u : Scanner} {c : Char} (h : LoopKeeps s u) (hc : u.charAt? u.pos = some c)
    (hblank : isBlank c = false) :
    Keeps s ({ u with tokenStart := u.pos }.scanAt c) ∧ Settled ({ u with tokenStart := u.pos }.scanAt c) := by
  have hstep := scanAt_step (s := { u with tokenStart := u.pos }) hc
  obtain ⟨hstart, hadv⟩ := scanAt_from hc
  have htext : ({ u with tokenStart := u.pos }.scanAt c).text = u.text := hstep.readsOn.text_eq
  refine ⟨⟨by rw [hstep.comments_eq]; exact h.keeps.comments_prefix,
    h.keeps.errors_prefix.trans hstep.errors_prefix⟩, fun c' hc' => ?_⟩
  rw [hstep.comments_eq] at hc'
  cases h.last c' hc' with
  | marked hm => exact .marked hm
  | cut p hstop hpos hp => exact .cut p hstop (by omega) (by omega) (by rw [htext]; exact hp)
  | fresh _ hstop =>
    have hp : NotSpaceAt u.text u.pos := notSpaceAt_of_charAt? hc hblank
    exact .cut u.pos hstop (by omega) hadv (by rw [htext]; exact hp)
  | atEnd hn =>
    rw [hc] at hn
    cases hn

/-- Reading a token from a settled scanner only extends its lists, and leaves it settled. -/
theorem scan_keeps {s : Scanner} (hs : Settled s) : Keeps s s.scan ∧ Settled s.scan := by
  unfold scan
  exact scanLoop_rule (LoopKeeps s) (fun t => Keeps s t ∧ Settled t) (fun _ _ hu hv => hu.step hv)
    (fun _ hu hn => hu.eof hn) (fun _ _ hu hc _ hblank _ _ => hu.token hc hblank) _ _ (.start hs)
    (Nat.lt_succ_self _)

/-! ### The other moves -/

theorem skipShebang_of_ne {s : Scanner} (h : s.pos ≠ 0) : s.skipShebang = s := by
  unfold skipShebang
  rw [if_pos (by simpa using h)]

theorem skipShebang_keeps {s : Scanner} (hs : Settled s) :
    Keeps s s.skipShebang ∧ Settled s.skipShebang := by
  by_cases h0 : s.pos = 0
  · have heq := skipShebang_eq s
    refine ⟨by rw [heq]; exact ⟨List.prefix_refl _, List.prefix_refl _⟩, fun c hc => ?_⟩
    rw [heq] at hc ⊢
    cases hs c hc with
    | marked hm => exact .marked hm
    | cut p _ _ hpos _ => exact absurd hpos (by omega)
    | atEnd he hn =>
      have hn' : Text.charAt? s.text 0 = none := by rw [← h0]; exact hn
      have hempty := (isBoundary_zero s.text).eq_size_of_charAt? hn'
      have hle := (skipShebang_boundary s (by rw [h0]; exact isBoundary_zero _)).le_size
      have hpos : s.skipShebang.pos = 0 := by omega
      exact .atEnd he (by show Text.charAt? s.text s.skipShebang.pos = none; rw [hpos]; exact hn')
  · rw [skipShebang_of_ne h0]
    exact ⟨Keeps.refl s, hs⟩

/-- What a rescan that acts does: it reads the current token again from where it started, in the
same text, keeping the comments and adding to the errors. It acts only on a token that is not the
end of the file. -/
structure RescanStep (s t : Scanner) : Prop where
  token_ne : s.token ≠ .endOfFileToken
  text_eq : t.text = s.text
  tokenStart_eq : t.tokenStart = s.tokenStart
  comments_eq : t.comments = s.comments
  errors_prefix : s.errors.toList <+: t.errors.toList
  pos_gt : s.pos ≤ t.pos ∨ s.tokenStart < t.pos

theorem RescanStep.keeps {s t : Scanner} (h : RescanStep s t) (hs : Settled s) : Keeps s t ∧ Settled t := by
  refine ⟨⟨h.comments_eq ▸ List.prefix_refl _, h.errors_prefix⟩, fun c hc => ?_⟩
  rw [h.comments_eq] at hc
  cases hs c hc with
  | marked hm => exact .marked hm
  | cut p hstop hstart hpos hp =>
    have hgt := h.pos_gt
    exact .cut p hstop (by rw [h.tokenStart_eq]; exact hstart) (by omega) (by rw [h.text_eq]; exact hp)
  | atEnd he _ => exact absurd he h.token_ne

theorem keeps_of_rescan {s t : Scanner} (h : t = s ∨ RescanStep s t) (hs : Settled s) :
    Keeps s t ∧ Settled t := by
  rcases h with rfl | h
  · exact ⟨Keeps.refl t, hs⟩
  · exact h.keeps hs

theorem token_ne_of_test {s : Scanner} {f : TokenKind → Bool} (hf : f .endOfFileToken = true)
    (h : ¬f s.token = true) : s.token ≠ .endOfFileToken :=
  fun he => h (he ▸ hf)

theorem rescanGreater_cases (s : Scanner) : s.rescanGreater = s ∨ RescanStep s s.rescanGreater := by
  unfold rescanGreater
  split
  · exact .inl rfl
  · rename_i hgreater
    have hne : s.token ≠ .endOfFileToken :=
      token_ne_of_test (f := fun k => k != .greaterThanToken) (by decide) hgreater
    dsimp only
    repeat' split
    all_goals first
      | exact .inl rfl
      | exact .inr ⟨hne, rfl, rfl, rfl, List.prefix_refl _, .inl (Nat.le_add_right _ _)⟩

theorem rescanSlash_cases (s : Scanner) : s.rescanSlash = s ∨ RescanStep s s.rescanSlash := by
  unfold rescanSlash
  split
  · exact .inl rfl
  · rename_i hslash
    have hne : s.token ≠ .endOfFileToken :=
      token_ne_of_test (f := fun k => k != .slashToken && k != .slashEqualsToken) (by decide) hslash
    dsimp only
    generalize hr : regexBody s.tokenStart (s.size + 1) false { s with pos := s.tokenStart + 1 } = r
    have hregex : ({ s with pos := s.tokenStart + 1 } : Scanner).TokenStep r := hr ▸ regexBody_step _ _ _ _
    have hstep := hregex.trans (skipIdentifierParts_step r (r.size - r.pos + 1))
    exact .inr ⟨hne, hstep.readsOn.text_eq, hstep.readsOn.tokenStart_eq, hstep.comments_eq,
      hstep.errors_prefix, .inr hstep.readsOn.pos_le⟩

theorem rescanTemplate_cases (s : Scanner) : s.rescanTemplate = s ∨ RescanStep s s.rescanTemplate := by
  unfold rescanTemplate
  split
  · exact .inl rfl
  · rename_i hbrace
    have hne : s.token ≠ .endOfFileToken :=
      token_ne_of_test (f := fun k => k != .closeBraceToken) (by decide) hbrace
    have hstep := scanTemplate_step { s with pos := s.tokenStart + 1, value := "" } false
    exact .inr ⟨hne, hstep.readsOn.text_eq, hstep.readsOn.tokenStart_eq, hstep.comments_eq,
      hstep.errors_prefix, .inr hstep.readsOn.pos_le⟩

/-! ### Runs and snapshots -/

theorem Move.keeps {s t : Scanner} (h : Move s t) (hs : Settled s) : Keeps s t ∧ Settled t := by
  cases h with
  | scan => exact scan_keeps hs
  | shebang => exact skipShebang_keeps hs
  | greater => exact keeps_of_rescan (rescanGreater_cases s) hs
  | slash => exact keeps_of_rescan (rescanSlash_cases s) hs
  | template => exact keeps_of_rescan (rescanTemplate_cases s) hs

/-- Every scanner reached from a fresh one by moves is settled. -/
theorem settled_of_moves {text : String} {s : Scanner} (h : Relation.ReflTransGen Move (new text) s) :
    Settled s := by
  induction h with
  | refl => exact settled_new text
  | tail _ hmove ih => exact (hmove.keeps ih).2

theorem keeps_of_moves {s t : Scanner} (hs : Settled s) (h : Relation.ReflTransGen Move s t) :
    Keeps s t ∧ Settled t := by
  induction h with
  | refl => exact ⟨Keeps.refl s, hs⟩
  | tail _ hmove ih =>
    have hnext := hmove.keeps ih.2
    exact ⟨ih.1.trans hnext.1, hnext.2⟩

/-- Going back to a snapshot is exact: for a scanner `s` reached from a fresh one by moves and any
scanner `t` reached from `s` by moves, going back from `t` to the snapshot `s` gives `s` itself,
its token, position, trivia start, value, line break flag, errors and comments with their marks. -/
theorem restore_after_moves {text : String} {s t : Scanner}
    (hs : Relation.ReflTransGen Move (new text) s) (ht : Relation.ReflTransGen Move s t) :
    t.restore s = s :=
  restore_of_keeps (keeps_of_moves (settled_of_moves hs) ht).1

/-- A snapshot after a block comment and the token that follows it on its line, restored after
the next read steps over the line break. -/
theorem restore_after_comment_line :
    Relation.ReflTransGen Move (new "/* a */ b\n") (new "/* a */ b\n").scan ∧
      Relation.ReflTransGen Move (new "/* a */ b\n").scan (new "/* a */ b\n").scan.scan ∧
      (new "/* a */ b\n").scan.scan.restore (new "/* a */ b\n").scan = (new "/* a */ b\n").scan :=
  ⟨.single (.scan _), .single (.scan _), restore_after_moves (.single (.scan _)) (.single (.scan _))⟩

end Scanner

end ParamNarrow
