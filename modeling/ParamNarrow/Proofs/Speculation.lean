import ParamNarrow.Proofs.Tree.File
/-!
# Speculation leaves the parser as it was

The parser tries a construct and goes back when it does not fit: `lookAhead` always goes back,
`tryParse` when its step yields nothing or reports a diagnostic. Going back takes the saved state's
fields, with the scanner restored to its snapshot and the diagnostics cut back to their number at
the snapshot, but keeps the nesting depth that the step left.

That is exact from every state the parser reaches. Such a state is `Sane`: among other things its
scanner was reached from a fresh one over the text by the scanner's moves. Every step of the
grammar runs from a sane state to a sane state that `Follows` it: a scanner reached by more moves,
diagnostics only added after the old ones, the depth given back. So the scanner's lists only grew,
and cutting them back gives the snapshot; cutting the diagnostics back gives the saved ones.
-/

namespace ParamNarrow

open ParamNarrow.Parser

/-- Failed speculation leaves the parser unchanged. The parser's first state is sane, and every
entry point of every level of the grammar runs from a sane state to a sane state that follows it;
the look-ahead blocks inside the rules are such steps too, since a look-ahead is specified only
around one. From a sane state, a look-ahead around any such step yields that step's result, a
`Bool` for every look-ahead of the parser, and leaves the state as it was: its scanner, the end
of the last token consumed, the diagnostics, the offset of the last one, the context and the
depth. A tried step that yields nothing or reports a diagnostic yields nothing and leaves the
state as it was, so nothing it built reaches the tree. -/
theorem speculation_leaves_parser_unchanged :
    (∀ fileName text, Sane (advance (start fileName text))) ∧
    (∀ n, (Grammar.ofFuel n).Sound) ∧
    (∀ {α : Type} (m : ParserM α), Moves m → ∀ p, Sane p →
      (lookAhead m).run p = ((m.run p).1, p)) ∧
    (∀ {α : Type} (m : ParserM (Option α)), Moves m → ∀ p, Sane p →
      ((m.run p).1 = none ∨ (m.run p).2.diagnostics.size ≠ p.diagnostics.size) →
        (tryParse m).run p = (none, p)) :=
  ⟨advance_start_sane, Grammar.ofFuel_sound, fun _ hm _ hp => lookAhead_exact hm hp,
    fun _ hm _ hp hfail => tryParse_exact hm hp hfail⟩

end ParamNarrow
