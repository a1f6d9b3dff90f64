import ParamNarrow.Proofs.Tree.File
import ParamNarrow.Proofs.LinePositions
/-!
# Offsets of 32 bits

Byte offsets are kept in numbers of 32 bits at the source: the ends of tokens and comments, the
spans of nodes, the starts of lines. Here they are natural numbers. Each of them lies inside the
text, so for a text of fewer than `2^32` bytes each fits in 32 bits, and the casts to 32 bits keep
it (`offsets_fit_in_32_bits`).
-/

namespace ParamNarrow

/-- Offsets fit in 32 bits. For a text of fewer than `2^32` bytes: the scanner's position after
every read, the end of every comment recorded, every line start of the line map and, for a text
parsed with no error diagnostic, the end of the file and the end of every node of the tree are
below `2^32`. -/
theorem offsets_fit_in_32_bits (fileName text : String) (hsize : text.utf8ByteSize < 2 ^ 32) :
    (∀ k, (Scanner.scanRun text k).pos < 2 ^ 32 ∧
      ∀ c ∈ (Scanner.scanRun text k).comments.toList, c.stop < 2 ^ 32) ∧
    (∀ x ∈ (Text.LineMap.build text).starts, x < 2 ^ 32) ∧
    ((parseFile fileName text).2.any Diagnostic.isError = false →
      (parseFile fileName text).1.stop < 2 ^ 32 ∧
        ∀ s ∈ (parseFile fileName text).1.statements, ∀ n, Node.Occurs n s → n.stop < 2 ^ 32) := by
  refine ⟨fun k => ?_, fun x hx => ?_, fun hclean => ?_⟩
  · have hfacts := Scanner.runFacts text k
    have hpos := hfacts.boundary.le_size
    refine ⟨by omega, fun c hc => ?_⟩
    have hc' := (hfacts.spans_placed (c.pos, c.stop) (List.mem_map_of_mem hc)).2.1
    exact Nat.lt_of_le_of_lt hc' (by omega)
  · rw [Text.build_starts] at hx
    have hle := Text.lineStarts_le_size x hx
    rw [String.utf8Len_toList] at hle
    omega
  · have hstop := (parseFile_good (Diagnostic.eq_nil_of_no_error hclean)).1
    refine ⟨by omega, fun s hs n hn => ?_⟩
    have hinside := parseFile_nodes_inside hclean s hs n hn
    omega

theorem offsets_fit_in_32_bits_sample :
    "a /* b */ c;\n".utf8ByteSize < 2 ^ 32 ∧
      ((∀ k, (Scanner.scanRun "a /* b */ c;\n" k).pos < 2 ^ 32 ∧
        ∀ c ∈ (Scanner.scanRun "a /* b */ c;\n" k).comments.toList, c.stop < 2 ^ 32) ∧
      (∀ x ∈ (Text.LineMap.build "a /* b */ c;\n").starts, x < 2 ^ 32) ∧
      ((parseFile "input.ts" "a /* b */ c;\n").2.any Diagnostic.isError = false →
        (parseFile "input.ts" "a /* b */ c;\n").1.stop < 2 ^ 32 ∧
          ∀ s ∈ (parseFile "input.ts" "a /* b */ c;\n").1.statements, ∀ n, Node.Occurs n s →
            n.stop < 2 ^ 32)) :=
  ⟨by decide, offsets_fit_in_32_bits _ _ (by decide)⟩

end ParamNarrow
