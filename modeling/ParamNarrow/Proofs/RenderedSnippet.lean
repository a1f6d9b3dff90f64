import Mathlib
import ParamNarrow.Diagnostic.Render
import ParamNarrow.Proofs.LinePositions
/-!
# The line a rendered diagnostic shows

A rendered diagnostic names its place as `line:column` from the line map, and shows a snippet of
the line it names. The snippet takes its line from a split at line feeds (`Text.lines`), where one
carriage return before a line feed is dropped: a carriage return alone breaks a line for the line
map but not for the split.

When every carriage return of the text comes before a line feed, both count the same lines, and
the snippet's line is the line map's (`lineChars_eq_lineText`): the text from the line start up to
the next line break. The underline then starts under the column when the line number has at most
three digits, so that the number's gutter is as wide as the underline's indentation
(`Diagnostic.render_shows_line`). A carriage return alone makes the snippet show a later line of
the text than the one named (`render_shows_line_after_lone_carriage_return`).
-/

namespace ParamNarrow.Text

/-- Every carriage return of `cs` comes right before a line feed. -/
def NoLoneCarriageReturn (cs : List Char) : Prop :=
  ∀ i < cs.length, cs[i]? = some '\r' → cs[i + 1]? = some '\n'

instance (cs : List Char) : Decidable (NoLoneCarriageReturn cs) :=
  inferInstanceAs (Decidable (∀ i < cs.length, _))

/-- The indices of the characters where lines start: 0, and the index after each line break. -/
def lineStartIndices (cs : List Char) : List Nat :=
  0 :: (lineBreakEnds cs).map (· + 1)

/-- A character that breaks no line. -/
def inLine (c : Char) : Bool :=
  c != '\n' && c != '\r'

theorem inLine_iff {c : Char} : inLine c ↔ c ≠ '\n' ∧ c ≠ '\r' := by
  simp [inLine]

/-- The text of line `L`: from its start up to the next line break. -/
def lineText (cs : List Char) (L : Nat) : List Char :=
  match (lineStartIndices cs)[L]? with
  | some j => (cs.drop j).takeWhile inLine
  | none => []

/-- A line of the split with its carriage return dropped. -/
def dropCarriageReturn (p : List Char) : List Char :=
  if p.getLast? == some '\r' then p.dropLast else p

variable {cs p rest : List Char}

/-! ### The split at line feeds -/

theorem lineChars_append_lineFeed (hp : '\n' ∉ p) :
    lineChars (p ++ '\n' :: rest) = dropCarriageReturn p :: lineChars rest := by
  have hne := List.splitOn_ne_nil '\n' rest
  unfold lineChars
  dsimp only
  rw [List.splitOn_append_cons_self_of_not_mem hp, List.dropLast_cons_of_ne_nil hne,
    List.getLast?_cons, List.getLast?_eq_some_getLast hne]
  simp only [Option.getD_some, List.map_cons]
  split <;> rfl

theorem lineChars_of_not_mem (h : '\n' ∉ cs) : lineChars cs = if cs.isEmpty then [] else [cs] := by
  unfold lineChars
  dsimp only
  rw [List.splitOn_eq_singleton h]
  simp

theorem exists_first_lineFeed (h : '\n' ∈ cs) : ∃ p rest, cs = p ++ '\n' :: rest ∧ '\n' ∉ p := by
  induction cs with
  | nil => cases h
  | cons c cs ih =>
    by_cases hc : c = '\n'
    · exact ⟨[], cs, by rw [hc]; rfl, by simp⟩
    · obtain ⟨p, rest, rfl, hp⟩ := ih (by simpa [Ne.symm hc] using h)
      exact ⟨c :: p, rest, rfl, by simp [Ne.symm hc, hp]⟩

/-! ### Line breaks around a line feed -/

theorem lineBreakEnds_append_lineFeed (hp : '\n' ∉ p)
    (hcr : ∀ i, p[i]? = some '\r' → i + 1 = p.length) :
    lineBreakEnds (p ++ '\n' :: rest) =
      p.length :: (lineBreakEnds rest).map (· + (p.length + 1)) := by
  induction p with
  | nil =>
    have hend : EndsLineBreak ('\n' :: rest) 0 := Or.inl rfl
    rw [List.nil_append, lineBreakEnds_cons, if_pos hend]
    simp
  | cons c p ih =>
    have hc : c ≠ '\n' := fun h => hp (h ▸ List.mem_cons_self ..)
    have hend : ¬ EndsLineBreak (c :: (p ++ '\n' :: rest)) 0 := by
      rintro (h | ⟨h, hnext⟩)
      · exact hc (by simpa using h)
      · have hlast := hcr 0 (by simpa using h)
        have hnil : p = [] := List.eq_nil_of_length_eq_zero (by simpa using hlast.symm)
        subst hnil
        exact hnext rfl
    have ih' := ih (fun h => hp (List.mem_cons_of_mem _ h))
      (fun i hi => by simpa using hcr (i + 1) (by simpa using hi))
    rw [List.cons_append, lineBreakEnds_cons, if_neg hend, ih']
    simp [Nat.add_assoc]

theorem noLoneCarriageReturn_append_lineFeed (hp : '\n' ∉ p)
    (h : NoLoneCarriageReturn (p ++ '\n' :: rest)) :
    (∀ i, p[i]? = some '\r' → i + 1 = p.length) ∧ NoLoneCarriageReturn rest := by
  constructor
  · intro i hi
    have hlt : i < p.length := (List.getElem?_eq_some_iff.1 hi).1
    have hnext := h i (by simp; omega) (by rwa [List.getElem?_append_left hlt])
    refine Nat.le_antisymm hlt (Nat.le_of_not_lt fun hnlt => hp ?_)
    rw [List.getElem?_append_left hnlt] at hnext
    exact List.mem_of_getElem? hnext
  · intro i hi hcr
    have hshift : ∀ k, (p ++ '\n' :: rest)[p.length + 1 + k]? = rest[k]? := fun k => by
      rw [List.getElem?_append_right (by omega), Nat.add_assoc, Nat.add_sub_cancel_left,
        Nat.add_comm, List.getElem?_cons_succ]
    have hnext := h (p.length + 1 + i) (by simp; omega) (by rw [hshift]; exact hcr)
    rwa [show p.length + 1 + i + 1 = p.length + 1 + (i + 1) by omega, hshift] at hnext

/-! ### The text of a line -/

theorem lineText_zero (cs : List Char) : lineText cs 0 = cs.takeWhile inLine := by
  simp [lineText, lineStartIndices]

theorem lineText_append_lineFeed_zero (hp : '\n' ∉ p)
    (hcr : ∀ i, p[i]? = some '\r' → i + 1 = p.length) :
    lineText (p ++ '\n' :: rest) 0 = dropCarriageReturn p := by
  rw [lineText_zero, dropCarriageReturn]
  have hinit : ∀ c ∈ p.dropLast, inLine c := by
    intro c hc
    obtain ⟨i, hi, rfl⟩ := List.getElem_of_mem hc
    have hlt : i < p.length := by simp at hi; omega
    have hget : p.dropLast[i] = p[i] := List.getElem_dropLast ..
    have hne : p[i] ≠ '\n' := fun h => hp (h ▸ List.getElem_mem hlt)
    have hncr : p[i] ≠ '\r' := fun h => by
      have := hcr i (by rw [List.getElem?_eq_getElem hlt, h])
      simp at hi
      omega
    rw [hget]
    exact inLine_iff.2 ⟨hne, hncr⟩
  by_cases hlast : p.getLast? = some '\r'
  · obtain ⟨q, rfl⟩ := List.getLast?_eq_some_iff.1 hlast
    simp only [List.dropLast_concat] at hinit
    rw [List.append_assoc, List.takeWhile_append_of_pos hinit]
    simp [inLine]
  · have hall : ∀ c ∈ p, inLine c := by
      intro c hc
      obtain ⟨i, hi, rfl⟩ := List.getElem_of_mem hc
      have hne : p[i] ≠ '\n' := fun h => hp (h ▸ hc)
      have hncr : p[i] ≠ '\r' := fun h => by
        have hend := hcr i (by rw [List.getElem?_eq_getElem hi, h])
        apply hlast
        rw [List.getLast?_eq_getElem?, ← hend, Nat.add_sub_cancel, List.getElem?_eq_getElem hi, h]
      exact inLine_iff.2 ⟨hne, hncr⟩
    rw [List.takeWhile_append_of_pos hall]
    simp [hlast, inLine]

theorem lineStartIndices_append_lineFeed (hp : '\n' ∉ p)
    (hcr : ∀ i, p[i]? = some '\r' → i + 1 = p.length) :
    lineStartIndices (p ++ '\n' :: rest) =
      0 :: (lineStartIndices rest).map (· + (p.length + 1)) := by
  simp only [lineStartIndices, lineBreakEnds_append_lineFeed hp hcr, List.map_cons, List.map_map,
    Nat.zero_add, List.cons.injEq, true_and]
  refine List.map_congr_left fun x _ => ?_
  simp only [Function.comp_apply]
  omega

theorem lineText_append_lineFeed_succ (hp : '\n' ∉ p)
    (hcr : ∀ i, p[i]? = some '\r' → i + 1 = p.length) (L : Nat) :
    lineText (p ++ '\n' :: rest) (L + 1) = lineText rest L := by
  unfold lineText
  rw [lineStartIndices_append_lineFeed hp hcr, List.getElem?_cons_succ, List.getElem?_map]
  cases (lineStartIndices rest)[L]? with
  | none => rfl
  | some j =>
    have hdrop : (p ++ '\n' :: rest).drop (j + (p.length + 1)) = rest.drop j := by
      rw [List.drop_append, List.drop_eq_nil_of_le (by omega), List.nil_append,
        show j + (p.length + 1) - p.length = j + 1 by omega, List.drop_succ_cons]
    simp only [Option.map_some, hdrop]

/-- Where every carriage return comes before a line feed, each line of the split is the text of
the line map's line of the same index. -/
theorem lineChars_eq_lineText (h : NoLoneCarriageReturn cs) {L : Nat} {t : List Char}
    (ht : (lineChars cs)[L]? = some t) : t = lineText cs L := by
  induction hlen : cs.length using Nat.strong_induction_on generalizing cs L t with
  | _ n ih =>
  by_cases hlf : '\n' ∈ cs
  · obtain ⟨p, rest, rfl, hp⟩ := exists_first_lineFeed hlf
    obtain ⟨hcr, hrest⟩ := noLoneCarriageReturn_append_lineFeed hp h
    rw [lineChars_append_lineFeed hp] at ht
    cases L with
    | zero =>
      rw [lineText_append_lineFeed_zero hp hcr]
      simpa using ht.symm
    | succ L =>
      rw [lineText_append_lineFeed_succ hp hcr]
      exact ih rest.length (by simp at hlen; omega) hrest (by simpa using ht) rfl
  · have hall : ∀ c ∈ cs, inLine c := by
      intro c hc
      obtain ⟨i, hi, rfl⟩ := List.getElem_of_mem hc
      have hne : cs[i] ≠ '\n' := fun he => hlf (he ▸ hc)
      have hncr : cs[i] ≠ '\r' := fun he => hlf (by
        have := h i hi (by rw [List.getElem?_eq_getElem hi, he])
        exact List.mem_of_getElem? this)
      exact inLine_iff.2 ⟨hne, hncr⟩
    rw [lineChars_of_not_mem hlf] at ht
    have hself : cs.takeWhile inLine = cs := by
      simpa using @List.takeWhile_append_of_pos _ inLine cs [] hall
    cases L with
    | zero =>
      rw [lineText_zero, hself]
      split at ht <;> simp_all
    | succ L =>
      split at ht <;> simp at ht

end ParamNarrow.Text

namespace ParamNarrow

open Text

/-! ### The snippet -/

theorem length_expandTabs (cs : List Char) : (expandTabs cs).length = (cs.map snippetWidth).sum := by
  simp only [expandTabs, String.length_join, List.map_map]
  congr 1
  refine List.map_congr_left fun c _ => ?_
  simp only [Function.comp_apply, snippetWidth]
  split
  · decide
  · exact String.length_singleton

theorem toList_underlineLead (cs : List Char) :
    (String.join (cs.map fun c => if c == '\t' then "    " else " ")).toList =
      List.replicate (cs.map snippetWidth).sum ' ' := by
  rw [String.toList_join]
  induction cs with
  | nil => rfl
  | cons c cs ih =>
    rw [List.map_cons, List.flatMap_cons, ih, List.map_cons, List.sum_cons, List.replicate_add]
    simp only [snippetWidth]
    split <;> rfl

theorem length_gutter {n : Nat} (h : n < 1000) :
    ("  " ++ padLeft 3 (toString n) ++ "   ").length = 8 := by
  have hdigits : (toString n).length ≤ 3 :=
    (Nat.length_repr_le_iff (by decide)).2 (by simpa using h)
  simp only [padLeft, String.length_append, String.length_ofList, List.length_replicate]
  have : "  ".length = 2 := rfl
  have : "   ".length = 3 := rfl
  omega

/-- A rendered diagnostic names the place the line map gives its start, as `line:column` counted
from 1, and says what it is. Where the text has no lone carriage return and the line number has at
most three digits, the snippet that follows, if any, shows the line map's line with its tabs
widened, and the underline starts under the column: it is indented as far as the gutter and the
line's characters before the column. -/
theorem Diagnostic.render_shows_line (s : String) (d : Diagnostic)
    (hcr : NoLoneCarriageReturn s.toList)
    (hline : ((LineMap.build s).position s d.start).line + 1 < 1000) :
    let p := (LineMap.build s).position s d.start
    let text := lineText s.toList p.line
    ∃ tail : String,
      d.render s (LineMap.build s) =
        d.file ++ ":" ++ toString (p.line + 1) ++ ":" ++ toString (p.character + 1) ++ " - "
          ++ d.message.category.label ++ " TSP" ++ toString d.message.code ++ ": "
          ++ d.message.text ++ tail ∧
      (tail = "" ∨
        ∃ gutter lead tildes : String,
          tail = "\n" ++ gutter ++ expandTabs text ++ "\n" ++ lead ++ tildes ∧
          lead.toList =
            List.replicate (gutter.length + (expandTabs (text.take p.character)).length) ' ' ∧
          tildes ≠ "" ∧ ∀ c ∈ tildes.toList, c = '~') := by
  intro p text
  refine ⟨(snippet s (p.line + 1) (p.character + 1) d.length).getD "", rfl, ?_⟩
  unfold snippet
  simp only [Nat.add_sub_cancel, Text.lines, List.getElem?_map]
  cases ht : (lineChars s.toList)[p.line]? with
  | none => exact Or.inl rfl
  | some t =>
    obtain rfl : t = text := lineChars_eq_lineText hcr ht
    refine Or.inr ⟨"  " ++ padLeft 3 (toString (p.line + 1)) ++ "   ",
      "        " ++ String.join ((text.take p.character).map
        fun c => if c == '\t' then "    " else " "),
      String.ofList (List.replicate (Nat.max 1 ((((text.drop p.character).take d.length).map
        snippetWidth).foldl (· + ·) 0)) '~'), ?_, ?_, ?_, ?_⟩
    · simp only [Option.map_some, Option.bind_eq_bind, Option.bind_some, Option.pure_def,
        Option.getD_some, String.toList_ofList]
      rw [show "\n  " = "\n" ++ "  " by decide, show "\n        " = "\n" ++ "        " by decide]
      simp only [String.append_assoc]
    · rw [String.toList_append, toList_underlineLead, length_gutter hline, length_expandTabs,
        show "        ".toList = List.replicate 8 ' ' by decide, List.replicate_add]
    · intro hempty
      have hlen := congrArg String.length hempty
      rw [String.length_ofList, List.length_replicate] at hlen
      simp at hlen
    · intro c hc
      rw [String.toList_ofList] at hc
      exact List.eq_of_mem_replicate hc

/-- A diagnostic on a line after a CRLF line end, with a tab before its column. -/
theorem Diagnostic.render_shows_line_after_tab :
    NoLoneCarriageReturn "x;\r\n\t)".toList ∧
      ((LineMap.build "x;\r\n\t)").position "x;\r\n\t)" 5).line + 1 < 1000 ∧
      let p := (LineMap.build "x;\r\n\t)").position "x;\r\n\t)" 5
      let text := lineText "x;\r\n\t)".toList p.line
      ∃ tail : String,
        Diagnostic.render "x;\r\n\t)" (LineMap.build "x;\r\n\t)")
            ⟨"input.ts", 5, 1, .expressionExpected⟩ =
          "input.ts" ++ ":" ++ toString (p.line + 1) ++ ":" ++ toString (p.character + 1)
            ++ " - " ++ Message.expressionExpected.category.label ++ " TSP"
            ++ toString Message.expressionExpected.code ++ ": " ++ Message.expressionExpected.text
            ++ tail ∧
        (tail = "" ∨
          ∃ gutter lead tildes : String,
            tail = "\n" ++ gutter ++ expandTabs text ++ "\n" ++ lead ++ tildes ∧
            lead.toList =
              List.replicate (gutter.length + (expandTabs (text.take p.character)).length) ' ' ∧
            tildes ≠ "" ∧ ∀ c ∈ tildes.toList, c = '~') :=
  ⟨by decide, by decide, Diagnostic.render_shows_line "x;\r\n\t)"
    ⟨"input.ts", 5, 1, .expressionExpected⟩ (by decide) (by decide)⟩

/-- After a lone carriage return the line map starts a line that the split does not: the
diagnostic names line 2, whose text is `)`, but the snippet shows the split's second line `b`. -/
theorem Diagnostic.render_shows_line_after_lone_carriage_return :
    (LineMap.build "a\r)\nb").position "a\r)\nb" 2 = ⟨1, 0⟩ ∧
      lineText "a\r)\nb".toList 1 = [')'] ∧
      Diagnostic.render "a\r)\nb" (LineMap.build "a\r)\nb")
          ⟨"input.ts", 2, 1, .expressionExpected⟩ =
        "input.ts:2:1 - error TSP1109: Expression expected.\n    2   b\n        ~" := by
  decide

end ParamNarrow
