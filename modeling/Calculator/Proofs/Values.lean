import Mathlib.Tactic.Common
import Calculator.Proofs.Descent
import Calculator.Proofs.Outline
import Calculator.Proofs.Unambiguity

/-!
# What an evaluation gives

The result of an evaluation in terms of the grammar and of integers without bounds; neither the
rules of evaluation nor the machine come into it.

* **The value**, `evaluateWithin_eq_ok_iff`: an input has a value exactly if its tokens are a
  sentence, with room for its groups, whose only tree has that value.
* **The error**, `evaluateWithin_sentence`: if they are such a sentence, all that can go wrong is an
  operation, and the error is that of the first one in post-order that fails.
-/

namespace Calculator

/-- The tokens of a sentence are evaluated as its tree is computed. -/
lemma evaluateWithin_eq_compute {maxDepth : Nat} {input : String} {tree : Tree .expression}
    (htokens : tokenize input = .ok tree.tokens) (hdepth : tree.depth ≤ maxDepth) :
    evaluateWithin maxDepth input = tree.compute := by
  obtain ⟨offset, hstream⟩ := tokenize_eq_ok_iff.1 htokens
  rw [evaluateWithin_eq_outcome, hstream]
  exact Machine.Configuration.outcome_tree tree hdepth offset

/-- Where there is a value, the tokens are those of a tree. -/
lemma exists_tree_of_evaluateWithin {maxDepth : Nat} {input : String} {value : Int}
    (h : evaluateWithin maxDepth input = .ok value) :
    ∃ tree : Tree .expression, tokenize input = .ok tree.tokens ∧ tree.depth ≤ maxDepth
      ∧ tree.Yields value := by
  rw [evaluateWithin_eq_outcome] at h
  have hinitial : Machine.Outline.initial.depth ≤ maxDepth := Nat.zero_le _
  obtain ⟨⟨offset, hending⟩, tree, htree, hyields, hdepth⟩ :=
    Machine.Outline.exists_tree hinitial h
  refine ⟨tree, tokenize_eq_ok_iff.2 ⟨offset, ?_⟩, hdepth, hyields⟩
  rw [htree, ← hending]
  rfl

/-- **Evaluation gives the value of the expression.**  It gives one exactly if the input has tokens,
these derive in one way from the grammar, no more groups lie in each other than allowed, and the
derivation has this value over the integers, every operation in it being in range. -/
theorem evaluateWithin_eq_ok_iff {maxDepth : Nat} {input : String} {value : Int} :
    evaluateWithin maxDepth input = .ok value ↔
      ∃ tokens, tokenize input = .ok tokens ∧ ∃ tree : Tree .expression, tree.tokens = tokens
        ∧ (∀ other : Tree .expression, other.tokens = tokens → other = tree)
        ∧ tree.depth ≤ maxDepth ∧ tree.Yields value := by
  constructor
  · intro h
    obtain ⟨tree, htokens, hdepth, hyields⟩ := exists_tree_of_evaluateWithin h
    refine ⟨tree.tokens, htokens, tree, rfl, ?_, hdepth, hyields⟩
    intro other hother
    exact Tree.tokens_injective .expression hother
  · rintro ⟨tokens, htokens, tree, rfl, -, hdepth, hyields⟩
    rw [evaluateWithin_eq_compute htokens hdepth]
    exact Tree.compute_eq_ok_iff.2 hyields

/-- The error of a tree is at one of its operations. -/
lemma Tree.exists_failsWith_of_compute {notion : Notion} {tree : Tree notion}
    {error : EvaluationError} (h : tree.compute = .error error) :
    ∃ operation ∈ tree.operations, ∃ failure, operation.FailsWith failure
      ∧ failure.map .runtime = error := by
  obtain ⟨failure, hfirst, herror⟩ := Tree.compute_eq_error_iff.1 h
  obtain ⟨operation, hmem, hfails⟩ := hfirst.exists_mem
  exact ⟨operation, hmem, failure, hfails, herror⟩

/-- A tree fails exactly if one of its operations does. -/
lemma Tree.exists_error_iff {notion : Notion} {tree : Tree notion} :
    (∃ error, tree.compute = .error error)
      ↔ ∃ operation ∈ tree.operations, ∃ failure, operation.FailsWith failure := by
  constructor
  · rintro ⟨error, h⟩
    obtain ⟨operation, hmem, failure, hfails, -⟩ := Tree.exists_failsWith_of_compute h
    exact ⟨operation, hmem, failure, hfails⟩
  · rintro ⟨operation, hmem, failure, hfails⟩
    cases hcompute : tree.compute with
    | error error => exact ⟨error, rfl⟩
    | ok value =>
        have hyields := Tree.compute_eq_ok_iff.1 hcompute
        exact absurd (Tree.succeeds_of_yields hyields operation hmem) hfails.not_succeeds

/-- An operation fails by a zero divisor or by leaving the range. -/
lemma Operation.FailsWith.kind {operation : Operation} {failure : RuntimeError}
    (h : operation.FailsWith failure) :
    (Fault.runtime failure.value).kind = .divisionByZero
      ∨ (Fault.runtime failure.value).kind = .overflow := by
  rcases h with ⟨l, r, -, -, ⟨-, -, rfl⟩ | ⟨_, -, -, rfl⟩⟩
  · exact .inl rfl
  · exact .inr rfl

/-- **Only arithmetic can go wrong in a sentence.**  If the tokens are those of a tree and there is
room for its groups, then the evaluation gives the value of the tree, or the error of the first
operation in post-order that fails; it fails exactly if some operation does.  No error is lexical,
syntactic or about nesting, and the offset in it is that of the operator between its operands. -/
theorem evaluateWithin_sentence {maxDepth : Nat} {input : String} {tree : Tree .expression}
    (htokens : tokenize input = .ok tree.tokens) (hdepth : tree.depth ≤ maxDepth) :
    (∀ value, evaluateWithin maxDepth input = .ok value ↔ tree.Yields value)
      ∧ (∀ error, evaluateWithin maxDepth input = .error error ↔
          ∃ failure, FirstFailure tree.operations failure ∧ failure.map .runtime = error)
      ∧ ((∃ error, evaluateWithin maxDepth input = .error error) ↔
          ∃ operation ∈ tree.operations, ∃ failure, operation.FailsWith failure)
      ∧ (∀ error, evaluateWithin maxDepth input = .error error →
          error.value.kind = .divisionByZero ∨ error.value.kind = .overflow)
      ∧ ∀ operation ∈ tree.operations,
          (operation.left.tokens ++ ⟨.operator operation.op, operation.offset⟩ ::
            operation.right.tokens) <:+: tree.tokens := by
  rw [evaluateWithin_eq_compute htokens hdepth]
  refine ⟨fun value => Tree.compute_eq_ok_iff, fun error => Tree.compute_eq_error_iff,
    Tree.exists_error_iff, ?_, Tree.operation_tokens_infix⟩
  intro error herror
  obtain ⟨operation, -, failure, hfails, rfl⟩ := Tree.exists_failsWith_of_compute herror
  exact hfails.kind

/-- Two operations of `2*(9223372036854775807+1)/0` fail; the sum is the first of them. -/
theorem evaluateWithin_sentence_sum_first :
    ∃ tree : Tree .expression, tokenize "2*(9223372036854775807+1)/0" = .ok tree.tokens
      ∧ tree.depth ≤ 1
      ∧ evaluateWithin 1 "2*(9223372036854775807+1)/0" = .error ⟨.runtime .overflow, 22⟩ := by
  let inner : Tree .expression :=
    .sum (.term (.factor (.number 9223372036854775807 3))) .add (.inl rfl) 22
      (.factor (.number 1 23))
  let tree : Tree .expression :=
    .term (.product (.product (.factor (.number 2 0)) .mul (.inl rfl) 1 (.group 2 inner 24)) .div
      (.inr rfl) 25 (.number 0 26))
  have htokens : tokenize "2*(9223372036854775807+1)/0" = .ok tree.tokens := by decide +kernel
  have hdepth : tree.depth ≤ 1 := by decide
  have hfails : FirstFailure tree.operations ⟨.overflow, 22⟩ :=
    .here ⟨9223372036854775807, 1, rfl, rfl, .inr ⟨9223372036854775808, rfl, by decide, rfl⟩⟩
  obtain ⟨-, herror, -⟩ := evaluateWithin_sentence htokens hdepth
  exact ⟨tree, htokens, hdepth, (herror _).2 ⟨_, hfails, rfl⟩⟩

end Calculator
