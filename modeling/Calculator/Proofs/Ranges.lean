import Mathlib.Tactic.Common
import Calculator.Proofs.Printing
import Calculator.Proofs.Values

/-!
# Values in range

Grammar and trees know numbers of any size.  But no input has a token for a number out of range, and
no operation gives one, so whatever is computed from the tokens of an input is in range:
`Tree.inRange_of_yields`.
-/

namespace Calculator

/-- A number that can be found in an input is in range. -/
lemma Token.Readable.inRange {n : Int} (h : (number n).Readable) : InRange n :=
  ⟨Int.le_trans (by decide) h.1, h.2⟩

/-- **The tokens of an input can be found in one**: symbols, and numbers in range. -/
lemma TokenStream.readable_ofString (input : String) :
    ∀ token ∈ (ofString input).tokens, token.value.Readable := by
  intro token hmem
  obtain ⟨lexeme, -, -, hread⟩ := exists_lexeme_of_mem_ofString hmem
  exact Lexeme.readable_of_read hread

/-- **The value of a tree of such tokens is in range.** -/
theorem Tree.inRange_of_yields {notion : Notion} {tree : Tree notion} {value : Int}
    (htokens : ∀ token ∈ tree.tokens, token.value.Readable) (h : tree.Yields value) :
    InRange value := by
  induction tree with
  | number n offset =>
      obtain rfl : value = n := h
      exact (htokens _ (List.mem_singleton_self _)).inRange
  | group opening inner closing ih =>
      refine ih (fun token hmem => htokens token ?_) h
      exact List.mem_cons_of_mem _ (List.mem_append_left _ hmem)
  | factor only ih => exact ih htokens h
  | product left op binds offset right ihl ihr =>
      obtain ⟨l, r, -, -, -, hfits⟩ := h
      exact fits_iff_inRange.1 hfits
  | term only ih => exact ih htokens h
  | sum left op binds offset right ihl ihr =>
      obtain ⟨l, r, -, -, -, hfits⟩ := h
      exact fits_iff_inRange.1 hfits

/-- Hence so is the value of an input. -/
lemma inRange_of_evaluateWithin {maxDepth : Nat} {input : String} {value : Int}
    (h : evaluateWithin maxDepth input = .ok value) : InRange value := by
  obtain ⟨tree, htokens, -, hyields⟩ := exists_tree_of_evaluateWithin h
  obtain ⟨offset, hstream⟩ := tokenize_eq_ok_iff.1 htokens
  have hreadable := TokenStream.readable_ofString input
  rw [hstream] at hreadable
  exact tree.inRange_of_yields hreadable hyields

end Calculator
