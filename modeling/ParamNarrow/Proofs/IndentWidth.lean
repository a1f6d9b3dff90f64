import Mathlib
import ParamNarrow.Print.Printer
import ParamNarrow.Syntax.Parser.File
import ParamNarrow.Cli.Config
/-!
# Indentation widths of 32 bits

The printer indents the first text of a line by the level times the spaces per level, multiplied
as numbers of 32 bits (`Output.indentWidth`). The spaces per level come from the `--indent` flag,
which takes at most 16, or from the `indentSize` of a configuration, which takes any number of 32
bits. Text at the start of a line is written after that product reduced modulo `2^32`, which is the
product only while the product is below `2^32` (`Output.write_indent_width`). A configuration of
4294967295 spaces per level and a block inside a block reach the second level at the start of a
line, where the product is past `2^32 - 1` and the width wraps around to 4294967294
(`print_indent_width_overflows`).
-/

namespace ParamNarrow

namespace Output

theorem indentWidth_eq (o : Output) :
    o.indentWidth = o.level * o.options.indentSize % 2 ^ 32 := by
  unfold indentWidth
  rw [UInt32.toNat_mul, UInt32.toNat_ofNat', UInt32.toNat_ofNat', ← Nat.mul_mod]

/-- The indentation of a line wraps around at `2^32`. Text written at the start of a line follows
as many spaces as the level times the spaces per level, reduced modulo `2^32`; that is the product
itself exactly when the product is below `2^32`. -/
theorem write_indent_width (o : Output) {s : String} (hs : s ≠ "") (h : o.atLineStart = true) :
    (o.write s).out =
        o.out ++ String.ofList (List.replicate (o.level * o.options.indentSize % 2 ^ 32) ' ') ++ s ∧
      (o.level * o.options.indentSize % 2 ^ 32 = o.level * o.options.indentSize ↔
        o.level * o.options.indentSize < 2 ^ 32) := by
  refine ⟨?_, Nat.mod_eq_iff_lt (by decide)⟩
  have hempty : s.isEmpty = false := by simpa using hs
  unfold write
  rw [hempty, ← indentWidth_eq]
  simp [h]

theorem write_indent_width_second_level :
    let o : Output := { options := { indentSize := 4 }, source := "", comments := [], level := 2 }
    "x" ≠ "" ∧ o.atLineStart = true ∧
      ((o.write "x").out =
          o.out ++ String.ofList (List.replicate (o.level * o.options.indentSize % 2 ^ 32) ' ') ++
            "x" ∧
        (o.level * o.options.indentSize % 2 ^ 32 = o.level * o.options.indentSize ↔
          o.level * o.options.indentSize < 2 ^ 32)) :=
  ⟨by decide, rfl, write_indent_width _ (by decide) rfl⟩

end Output

/-- A configuration may ask for 4294967295 spaces per level. A block inside a block then puts its
statement at the second level at the start of a line, where the product of level and spaces is
past `2^32 - 1`: the width written wraps around to 4294967294. -/
theorem print_indent_width_overflows :
    (parseConfig "\x7b\"indentSize\": 4294967295\x7d").toOption =
        some { indentSize := some 4294967295 } ∧
      (Config.options { indentSize := some 4294967295 } none none none).print =
        { indentSize := 4294967295 } ∧
      (parseFile "input.ts" "\x7b\n\x7b\nx;\n\x7d\n\x7d\n").1.layout[11]? = some (.text "x") ∧
      let f := (parseFile "input.ts" "\x7b\n\x7b\nx;\n\x7d\n\x7d\n").1
      let o := Output.run
        { options := { indentSize := 4294967295 }, source := f.text, comments := f.comments.toList }
        (f.layout.take 11)
      o.atLineStart = true ∧ 2 ^ 32 ≤ o.level * o.options.indentSize ∧ o.indentWidth = 4294967294 :=
  ⟨by decide +kernel, rfl, by decide +kernel, by decide +kernel⟩

end ParamNarrow
