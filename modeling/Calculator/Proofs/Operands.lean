import Mathlib.Tactic.Common
import Calculator.Proofs.Reading

/-!
# The operation that fails

When the machine breaks off in an operation, it has read both of its operands and no more than one
token after them.  The outline of what has been read still holds them: the left operand and the
operator are what was started, and the right operand has just been completed.

`Outline.exists_failsBefore` finds that operation among the tokens.  It says of both operands how
far they reach, so that they are all of what the operator joins: on the left back to the beginning
of the innermost group or chain, on the right up to the token that was refused.
-/

namespace Calculator

/-- The tokens of an operation: those of its operands, and the operator between them. -/
def Operation.tokens (operation : Operation) : List (Located Token) :=
  operation.left.tokens ++ ⟨.operator operation.op, operation.offset⟩ :: operation.right.tokens

namespace Operator

/-- What an operator joins on its left. -/
def leftNotion : Operator → Notion
  | .add | .sub => .expression
  | .mul | .div => .term

/-- What it joins on its right. -/
def rightNotion : Operator → Notion
  | .add | .sub => .term
  | .mul | .div => .factor

variable {op : Operator} {level : Level}

/-- The operator of a chain joins a chain and one more operand. -/
lemma leftNotion_of_has (h : level.Has op) : op.leftNotion = level.phrase := by
  cases level <;> rcases h with rfl | rfl <;> rfl

lemma rightNotion_of_has (h : level.Has op) : op.rightNotion = level.operand := by
  cases level <;> rcases h with rfl | rfl <;> rfl

end Operator

namespace Machine

/-- A left operand of the operator can begin here: at the beginning of the input or of a group, and
that of `*` or `/` also after `+` or `-`. -/
def LeftBegins (op : Operator) (before : List (Located Token)) : Prop :=
  ∀ token ∈ before.getLast?, token.value = .leftParen
    ∨ (op = .mul ∨ op = .div) ∧ (token.value = .operator .add ∨ token.value = .operator .sub)

/-- An operation fails at the end of what has been read, before the token that comes next. -/
structure FailsBefore (next : Located Token) (read : List (Located Token)) (operation : Operation)
    (failure : RuntimeError) : Prop where
  fails : operation.FailsWith failure
  /-- The operands are those that the operator joins. -/
  left_eq : operation.leftNotion = operation.op.leftNotion
  right_eq : operation.rightNotion = operation.op.rightNotion
  /-- The left operand reaches back to where it can begin. -/
  begins : ∃ before, read = before ++ operation.tokens ∧ LeftBegins operation.op before
  /-- The right operand of `+` or `-` does not go on. -/
  ends : operation.op = .add ∨ operation.op = .sub →
    next.value ≠ .operator .mul ∧ next.value ≠ .operator .div

namespace Started

variable {level : Level}

/-- The operation that the right operand makes of it. -/
def operation (started : Started level) (right : Tree level.operand) : Operation :=
  ⟨started.left.tree, started.op, started.offset, right⟩

lemma tokens_operation (started : Started level) (right : Tree level.operand) :
    (started.operation right).tokens = tokens (some started) ++ right.tokens := by
  rw [Operation.tokens, tokens_some, List.append_assoc]
  rfl

/-- **What cannot be settled was started**, and its operation fails. -/
lemma exists_failsWith {started? : Option (Started level)} {right : Valued level.operand}
    {failure : RuntimeError}
    (h : settle (started?.map pending) right.value = .error (failure.map .runtime)) :
    ∃ started, started? = some started ∧ (started.operation right.tree).FailsWith failure := by
  obtain ⟨pending, hpending, failure', happly, hfailure⟩ := settle_eq_error_iff.1 h
  obtain ⟨started, rfl, rfl⟩ := Option.map_eq_some_iff.1 hpending
  obtain rfl : failure' = failure := by
    rcases failure' with ⟨fault, offset⟩
    rcases failure with ⟨fault', offset'⟩
    cases hfailure
    rfl
  exact ⟨started, rfl, started.left.value, right.value, started.left.yields, right.yields,
    Operator.apply_eq_error_iff.1 happly⟩

end Started

namespace Outline

/-- What lies around the innermost group ends with its parenthesis. -/
lemma leftBegins_outerTokens (op : Operator) (outer : List (Layer × Nat)) :
    LeftBegins op (outerTokens outer) := by
  intro token htoken
  cases outer with
  | nil => cases htoken
  | cons head outer =>
      simp only [outerTokens, List.getLast?_append, List.getLast?_singleton, Option.some_or,
        Option.mem_def, Option.some.injEq] at htoken
      exact .inl (by rw [← htoken])

/-- A product that is started begins there, or after the operator of the sum that waits. -/
lemma leftBegins_sum {op : Operator} (hop : op = .mul ∨ op = .div) (outer : List (Layer × Nat))
    (sum? : Option (Started .additive)) :
    LeftBegins op (outerTokens outer ++ Started.tokens sum?) := by
  cases sum? with
  | none =>
      rw [Started.tokens_none, List.append_nil]
      exact leftBegins_outerTokens _ outer
  | some started =>
      intro token htoken
      simp only [Started.tokens_some, List.getLast?_append, List.getLast?_singleton,
        Option.some_or, Option.mem_def, Option.some.injEq] at htoken
      rw [← htoken]
      exact .inr ⟨hop, started.binds.imp (congrArg Token.operator) (congrArg Token.operator)⟩

/-- The product that is started fails with the operand that is held. -/
lemma failsBefore_of_product {top : Layer} {outer : List (Layer × Nat)} {operand : Valued .factor}
    {failure : RuntimeError} (next : Located Token)
    (h : settle top.frame.multiplicative? operand.value = .error (failure.map .runtime)) :
    ∃ operation, FailsBefore next (tokens ⟨top, outer, some operand⟩) operation failure := by
  obtain ⟨started, hstarted, hfails⟩ := @Started.exists_failsWith .multiplicative _ operand _ h
  refine ⟨_, hfails, (Operator.leftNotion_of_has started.binds).symm,
    (Operator.rightNotion_of_has started.binds).symm,
    ⟨outerTokens outer ++ Started.tokens top.sum?, ?_, leftBegins_sum started.binds outer _⟩, ?_⟩
  · rw [Started.tokens_operation]
    simp only [tokens, Layer.tokens, operandTokens, hstarted, List.append_assoc]
    rfl
  · intro hsum
    rcases started.binds with hop | hop <;> rcases hsum with h | h <;> cases hop.symm.trans h

/-- The sum that is started fails with the term that ends with the operand. -/
lemma failsBefore_of_sum {top : Layer} {outer : List (Layer × Nat)} {operand : Valued .factor}
    {term : Valued .term} {failure : RuntimeError} {next : Located Token}
    (hterm : term.tree.tokens = Started.tokens top.product? ++ operand.tree.tokens)
    (hnext : next.value.operatorAt? .multiplicative = none)
    (h : settle top.frame.additive? term.value = .error (failure.map .runtime)) :
    ∃ operation, FailsBefore next (tokens ⟨top, outer, some operand⟩) operation failure := by
  obtain ⟨started, hstarted, hfails⟩ := @Started.exists_failsWith .additive _ term _ h
  have htokens : tokens ⟨top, outer, some operand⟩
      = outerTokens outer ++ (Started.tokens (some started) ++ term.tree.tokens) := by
    simp only [tokens, Layer.tokens, operandTokens, hstarted, hterm, List.append_assoc]
  refine ⟨_, hfails, (Operator.leftNotion_of_has started.binds).symm,
    (Operator.rightNotion_of_has started.binds).symm,
    ⟨outerTokens outer, ?_, leftBegins_outerTokens _ outer⟩, fun _ => ?_⟩
  · rw [Started.tokens_operation]
    exact htokens
  · exact ⟨Token.ne_operator_of_has hnext (.inl rfl), Token.ne_operator_of_has hnext (.inr rfl)⟩

/-- **Where a token is refused because of an operation**, that operation stands at the end of what
has been read. -/
theorem exists_failsBefore {limit : Nat} {o : Outline} {token : Located Token}
    {failure : RuntimeError}
    (h : o.configuration.take limit token = .error (failure.map .runtime))
    (hnesting : ∀ l, failure.value ≠ .nestingTooDeep l) :
    ∃ operation, FailsBefore token o.tokens operation failure := by
  rcases failure with ⟨fault, offset⟩
  rcases o with ⟨top, outer, _ | operand⟩
  · rcases Configuration.want_eq_error h with ⟨-, -, herror⟩ | ⟨-, -, herror⟩
    · cases herror
      exact absurd rfl (hnesting limit)
    · cases herror
  · rcases Configuration.hold_eq_error h with
      hproduct | ⟨_, hterm, hmul, hsum | ⟨value, -, -, ⟨-, herror⟩ | ⟨-, -, herror⟩⟩⟩
    · exact failsBefore_of_product token hproduct
    · obtain ⟨term, rfl, htokens, -⟩ := Layer.exists_product hterm
      exact failsBefore_of_sum htokens hmul hsum
    · cases herror
    · cases herror

end Outline

end Machine

end Calculator
