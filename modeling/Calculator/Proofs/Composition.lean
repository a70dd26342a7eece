import Mathlib.Tactic.Common
import Calculator.Proofs.Embedding

/-!
# Composition

The value of an operation depends on the values of its operands and on nothing else.  If two texts
have values, they can be put together by an operator, and the result is what the operator gives for
the two values, or its error at the place where it stands: `evaluateWithin_compose`.

The proof goes by trees: those of the two texts are moved to where the texts stand, and joined by
one more link of a chain (`evaluateWithin_join`).
-/

namespace Calculator

/-! ## Expressions -/

namespace Tree

/-- Each phrase is an expression. -/
def whole : {notion : Notion} → Tree notion → Tree .expression
  | .factor, only => .term (.factor only)
  | .term, only => .term only
  | .expression, tree => tree

variable {notion : Notion}

lemma tokens_whole (tree : Tree notion) : tree.whole.tokens = tree.tokens := by
  cases notion <;> rfl

lemma depth_whole (tree : Tree notion) : tree.whole.depth = tree.depth := by
  cases notion <;> rfl

lemma compute_whole (tree : Tree notion) : tree.whole.compute = tree.compute := by
  cases notion <;> rfl

/-- One more link is computed after what it is linked to. -/
lemma compute_extend {level : Level} (left : Tree level.phrase) (link : Link level) :
    (left.extend link).compute = left.compute >>= fun l =>
      link.right.compute >>= fun r => Machine.settle (some ⟨l, link.op, link.offset⟩) r := by
  cases level with
  | multiplicative => exact compute_product left link.op link.binds link.offset link.right
  | additive => exact compute_sum left link.op link.binds link.offset link.right

/-- Where both operands have values, the operator is applied to these. -/
lemma compute_extend_of_yields {level : Level} {left : Tree level.phrase} {link : Link level}
    {l r : Int} (hl : left.Yields l) (hr : link.right.Yields r) :
    (left.extend link).compute
      = (link.op.apply l r link.offset).mapError (Located.map .runtime) := by
  rw [compute_extend, compute_eq_ok_iff.2 hl, ok_bind, compute_eq_ok_iff.2 hr, ok_bind]
  exact Machine.settle_some ⟨l, link.op, link.offset⟩ r

end Tree

/-! ## Two texts and an operator -/

/-- **A phrase, an operator of its level and one more operand** are evaluated by applying the
operator to their values. -/
lemma evaluateWithin_join {limit : Nat} {front back : String} {op : Operator} {level : Level}
    (binds : level.Has op) {left : Tree level.phrase} {right : Tree level.operand} {l r : Int}
    (hfront : Tokenizes 0 front left.tokens)
    (hback : Tokenizes (front.utf8ByteSize + 1) back right.tokens)
    (hleft : left.depth ≤ limit) (hright : right.depth ≤ limit)
    (hl : left.Yields l) (hr : right.Yields r) :
    evaluateWithin limit (front ++ String.singleton op.symbol ++ back)
      = (op.apply l r front.utf8ByteSize).mapError (Located.map .runtime) := by
  let link : Link level := ⟨op, binds, front.utf8ByteSize, right⟩
  have hdepth : (left.extend link).whole.depth ≤ limit := by
    rw [Tree.depth_whole, Tree.depth_extend]
    exact Nat.max_le.2 ⟨hleft, hright⟩
  have hjoin := hfront.join (.operator op) trivial (by rwa [Nat.zero_add])
  rw [Nat.zero_add] at hjoin
  have htokens : tokenize (front ++ String.singleton op.symbol ++ back)
      = .ok (left.extend link).whole.tokens := by
    rw [Tree.tokens_whole, Tree.tokens_extend]
    exact Tokenizes.zero_iff.1 hjoin
  rw [evaluateWithin_eq_compute htokens hdepth, Tree.compute_whole]
  exact Tree.compute_extend_of_yields hl hr

/-- **Evaluation is compositional.**  If two texts have values, then both in parentheses with an
operator between them come to what the operator gives for these values, be it a value or an error
at the operator; one more group has to be allowed.  Before `+` or `-` the first text needs no
parentheses: the operator goes with all of it and not with a part. -/
theorem evaluateWithin_compose {limit : Nat} {s t : String} {a b : Int}
    (hs : evaluateWithin limit s = .ok a) (ht : evaluateWithin limit t = .ok b) (op : Operator) :
    evaluateWithin (limit + 1)
          ("(" ++ s ++ ")" ++ String.singleton op.symbol ++ "(" ++ t ++ ")")
        = (op.apply a b (s.utf8ByteSize + 2)).mapError (Located.map .runtime)
      ∧ (op = .add ∨ op = .sub →
          evaluateWithin (limit + 1) (s ++ String.singleton op.symbol ++ "(" ++ t ++ ")")
            = (op.apply a b s.utf8ByteSize).mapError (Located.map .runtime)) := by
  have hassoc : ∀ front : String, front ++ "(" ++ t ++ ")" = front ++ ("(" ++ t ++ ")") := by
    intro front
    simp only [String.append_assoc]
  rw [hassoc, hassoc]
  constructor
  · have hsize : ("(" ++ s ++ ")").utf8ByteSize = s.utf8ByteSize + 2 := by
      simp only [String.utf8ByteSize_append]
      show 1 + s.utf8ByteSize + 1 = _
      omega
    obtain ⟨left, hfront, hleft, hl⟩ := exists_group hs 0 op.level.phrase
    obtain ⟨right, hback, hright, hr⟩ :=
      exists_group ht (("(" ++ s ++ ")").utf8ByteSize + 1) op.level.operand
    rw [← hsize]
    exact evaluateWithin_join (Level.has_iff.2 rfl) hfront hback hleft hright hl hr
  · intro binds
    obtain ⟨left, hfront, hleft, hl⟩ := exists_tree_of_evaluateWithin hs
    obtain ⟨right, hback, hright, hr⟩ := exists_group ht (s.utf8ByteSize + 1) .term
    exact @evaluateWithin_join _ _ _ _ .additive binds _ _ _ _ (Tokenizes.zero_iff.2 hfront) hback
      (Nat.le_succ_of_le hleft) hright hl hr

/-- With `9223372036854775807-1` on the left, adding `(2)` leaves the range at the operator,
wherever this stands. -/
theorem evaluateWithin_compose_overflow :
    evaluateWithin 2 "(9223372036854775807-1)+((2))" = .error ⟨.runtime .overflow, 23⟩
      ∧ evaluateWithin 2 "9223372036854775807-1+((2))" = .error ⟨.runtime .overflow, 21⟩ := by
  have hs : evaluateWithin 1 "9223372036854775807-1" = .ok 9223372036854775806 := by
    have hstream : TokenStream.ofString "9223372036854775807-1"
        = ⟨[⟨.number 9223372036854775807, 0⟩, ⟨.operator .sub, 19⟩, ⟨.number 1, 20⟩],
          .endOfInput 21⟩ := by decide +kernel
    rw [evaluateWithin_eq_outcome, hstream]
    rfl
  have ht : evaluateWithin 1 "(2)" = .ok 2 := by
    have hstream : TokenStream.ofString "(2)"
        = ⟨[⟨.leftParen, 0⟩, ⟨.number 2, 1⟩, ⟨.rightParen, 2⟩], .endOfInput 3⟩ := by
      decide +kernel
    rw [evaluateWithin_eq_outcome, hstream]
    rfl
  obtain ⟨hgroups, hsum⟩ := evaluateWithin_compose hs ht .add
  exact ⟨hgroups, hsum (.inl rfl)⟩

end Calculator
