import Mathlib.Tactic.Common
import Calculator.Grammar

/-!
# The operations of a tree

`Tree.operations` lists the operations of a tree in **post-order**: the operations of the left
operand, those of the right operand, and then the operation between them.  An operation *succeeds*
if its operands have values that can be combined; it *fails* if they have values that cannot.

Checked arithmetic goes through a tree in this order, and the two ways to speak of its result agree.

* `Tree.evaluate_eq_ok_iff`: it computes a value exactly if the tree has that value over the
  integers.
* `Tree.evaluate_eq_error_iff`: it gives an error exactly if that is the error of the first
  operation that fails.
-/

namespace Calculator

/-! ## Computations that may fail -/

@[simp]
lemma ok_bind {ε α β : Type} (a : α) (f : α → Except ε β) : (Except.ok a >>= f) = f a := rfl

@[simp]
lemma error_bind {ε α β : Type} (e : ε) (f : α → Except ε β) :
    (Except.error e >>= f) = .error e := rfl

lemma bind_eq_ok_iff {ε α β : Type} {x : Except ε α} {f : α → Except ε β} {b : β} :
    (x >>= f) = .ok b ↔ ∃ a, x = .ok a ∧ f a = .ok b := by
  cases x <;> simp

lemma bind_eq_error_iff {ε α β : Type} {x : Except ε α} {f : α → Except ε β} {e : ε} :
    (x >>= f) = .error e ↔ x = .error e ∨ ∃ a, x = .ok a ∧ f a = .error e := by
  cases x <;> simp

lemma mapError_eq_ok_iff {ε ε' α : Type} {x : Except ε α} {f : ε → ε'} {a : α} :
    x.mapError f = .ok a ↔ x = .ok a := by
  cases x <;> simp [Except.mapError]

lemma mapError_eq_error_iff {ε ε' α : Type} {x : Except ε α} {f : ε → ε'} {e : ε'} :
    x.mapError f = .error e ↔ ∃ e₀, x = .error e₀ ∧ f e₀ = e := by
  cases x <;> simp [Except.mapError]

/-! ## Checked arithmetic and the integers -/

/-- The range of checked arithmetic is that of 64 bits with sign. -/
lemma fits_iff_inRange {n : Int} : Fits n ↔ InRange n :=
  Iff.rfl

namespace Operator

variable {op : Operator} {left right value : Int} {offset : Nat} {error : RuntimeError}

/-- An operator computes its exact result, if it divides by nothing but numbers other than zero. -/
lemma computes_iff : Tree.Computes op left right value
    ↔ ¬(op = .div ∧ right = 0) ∧ value = op.exact left right := by
  cases op <;> simp [Tree.Computes, exact]

/-- An operation has a result if its operands combine to it. -/
lemma apply_eq_ok_iff : op.apply left right offset = .ok value
    ↔ Tree.Combines op left right value := by
  rw [apply, Tree.Combines, computes_iff, fits_iff_inRange, and_assoc]
  split
  · simp [*]
  · rename_i hzero
    split
    · rename_i hrange
      constructor
      · rintro ⟨⟩
        exact ⟨hzero, rfl, hrange⟩
      · rintro ⟨-, rfl, -⟩
        rfl
    · rename_i hrange
      constructor
      · rintro ⟨⟩
      · rintro ⟨-, rfl, hvalue⟩
        exact absurd hvalue hrange

/-- It fails for one of two reasons, and names its operator. -/
lemma apply_eq_error_iff : op.apply left right offset = .error error
    ↔ (op = .div ∧ right = 0 ∧ error = ⟨.divisionByZero, offset⟩)
      ∨ ∃ value, Tree.Computes op left right value ∧ ¬Fits value
        ∧ error = ⟨.overflow, offset⟩ := by
  simp only [computes_iff, fits_iff_inRange, and_assoc, exists_and_left, exists_eq_left]
  rw [apply]
  split
  · rename_i hzero
    simp [hzero, eq_comm]
  · rename_i hzero
    split
    · rename_i hrange
      simp only [reduceCtorEq, hzero, hrange, not_true_eq_false, false_and, and_false, or_false,
        false_iff]
      exact fun h => hzero ⟨h.1, h.2.1⟩
    · rename_i hrange
      simp only [Except.error.injEq, hzero, hrange, not_false_eq_true, true_and, eq_comm]
      exact ⟨Or.inr, fun h => h.resolve_left fun h => hzero ⟨h.1, h.2.1⟩⟩

end Operator

/-! ## Operations -/

/-- An operator of a tree, between the phrases that are its operands. -/
structure Operation where
  {leftNotion : Notion}
  {rightNotion : Notion}
  left : Tree leftNotion
  op : Operator
  offset : Nat
  right : Tree rightNotion

namespace Operation

/-- The operands have values, and they can be combined. -/
def Succeeds (operation : Operation) : Prop :=
  ∃ l r value, operation.left.Yields l ∧ operation.right.Yields r
    ∧ Tree.Combines operation.op l r value

/-- The operands have values, but they cannot be combined: a divisor is zero, or what the operation
comes to over the integers does not fit.  The error says which, and where the operator stands. -/
def FailsWith (operation : Operation) (error : RuntimeError) : Prop :=
  ∃ l r, operation.left.Yields l ∧ operation.right.Yields r
    ∧ ((operation.op = .div ∧ r = 0 ∧ error = ⟨.divisionByZero, operation.offset⟩)
      ∨ ∃ value, Tree.Computes operation.op l r value ∧ ¬Fits value
        ∧ error = ⟨.overflow, operation.offset⟩)

end Operation

namespace Tree

/-- The operations of a tree in post-order: those of the left operand, those of the right operand,
and the operation itself. -/
def operations : {notion : Notion} → Tree notion → List Operation
  | _, .number _ _ => []
  | _, .group _ inner _ => inner.operations
  | _, .factor only => only.operations
  | _, .product left op _ offset right =>
    left.operations ++ right.operations ++ [⟨left, op, offset, right⟩]
  | _, .term only => only.operations
  | _, .sum left op _ offset right =>
    left.operations ++ right.operations ++ [⟨left, op, offset, right⟩]

/-! ## Values -/

lemma bind_apply_eq_ok_iff {left right : Except RuntimeError Int} {op : Operator} {offset : Nat}
    {value : Int} :
    (do let l ← left; let r ← right; op.apply l r offset) = .ok value ↔
      ∃ l r, left = .ok l ∧ right = .ok r ∧ Combines op l r value := by
  cases left <;> cases right <;> simp [Operator.apply_eq_ok_iff]

lemma bind_apply_eq_error_iff {left right : Except RuntimeError Int} {op : Operator} {offset : Nat}
    {error : RuntimeError} :
    (do let l ← left; let r ← right; op.apply l r offset) = .error error ↔
      left = .error error ∨ (∃ l, left = .ok l ∧ right = .error error)
        ∨ ∃ l r, left = .ok l ∧ right = .ok r ∧ op.apply l r offset = .error error := by
  cases left <;> cases right <;> simp

/-- **Checked arithmetic computes the value that a tree has**, if it has one. -/
theorem evaluate_eq_ok_iff {notion : Notion} {tree : Tree notion} {value : Int} :
    tree.evaluate = .ok value ↔ tree.Yields value := by
  induction tree generalizing value with
  | number n offset => simp [evaluate, Yields, eq_comm]
  | group opening inner closing ih => exact ih
  | factor only ih => exact ih
  | product left op binds offset right ihl ihr =>
      simp only [evaluate, Yields, bind_apply_eq_ok_iff, ihl, ihr]
  | term only ih => exact ih
  | sum left op binds offset right ihl ihr =>
      simp only [evaluate, Yields, bind_apply_eq_ok_iff, ihl, ihr]

/-- A tree has at most one value. -/
lemma Yields.unique {notion : Notion} {tree : Tree notion} {v w : Int} (hv : tree.Yields v)
    (hw : tree.Yields w) : v = w := by
  rw [← evaluate_eq_ok_iff] at hv hw
  simpa [hv] using hw

/-- Where a tree has a value, all its operations succeed. -/
lemma succeeds_of_yields {notion : Notion} {tree : Tree notion} {value : Int}
    (h : tree.Yields value) : ∀ operation ∈ tree.operations, operation.Succeeds := by
  induction tree generalizing value with
  | number n offset => simp [operations]
  | group opening inner closing ih => exact ih h
  | factor only ih => exact ih h
  | product left op binds offset right ihl ihr =>
      rcases h with ⟨l, r, hl, hr, hcombines⟩
      simp only [operations, List.forall_mem_append, List.forall_mem_singleton]
      exact ⟨⟨ihl hl, ihr hr⟩, l, r, value, hl, hr, hcombines⟩
  | term only ih => exact ih h
  | sum left op binds offset right ihl ihr =>
      rcases h with ⟨l, r, hl, hr, hcombines⟩
      simp only [operations, List.forall_mem_append, List.forall_mem_singleton]
      exact ⟨⟨ihl hl, ihr hr⟩, l, r, value, hl, hr, hcombines⟩

end Tree

/-- No operation both fails and succeeds. -/
lemma Operation.FailsWith.not_succeeds {operation : Operation} {error : RuntimeError}
    (h : operation.FailsWith error) : ¬operation.Succeeds := by
  rintro ⟨l, r, value, hl, hr, hcombines⟩
  rcases h with ⟨l', r', hl', hr', hfails⟩
  rw [← Operator.apply_eq_error_iff, hl'.unique hl, hr'.unique hr] at hfails
  have happly : operation.op.apply l r operation.offset = .ok value :=
    Operator.apply_eq_ok_iff.2 hcombines
  cases hfails.symm.trans happly

/-- An operation fails with one error at most. -/
lemma Operation.FailsWith.unique {operation : Operation} {error error' : RuntimeError}
    (h : operation.FailsWith error) (h' : operation.FailsWith error') : error = error' := by
  rcases h with ⟨l, r, hl, hr, hfails⟩
  rcases h' with ⟨l', r', hl', hr', hfails'⟩
  rw [← Operator.apply_eq_error_iff] at hfails hfails'
  rw [hl'.unique hl, hr'.unique hr, hfails] at hfails'
  simpa using hfails'

/-! ## The first failure -/

/-- The error is that of the first operation of a list that fails. -/
inductive FirstFailure : List Operation → RuntimeError → Prop where
  | here {operation : Operation} {after : List Operation} {error : RuntimeError}
      (fails : operation.FailsWith error) : FirstFailure (operation :: after) error
  | later {operation : Operation} {after : List Operation} {error : RuntimeError}
      (succeeds : operation.Succeeds) (first : FirstFailure after error) :
      FirstFailure (operation :: after) error

namespace FirstFailure

lemma append_left {operations : List Operation} {error : RuntimeError}
    (h : FirstFailure operations error) (after : List Operation) :
    FirstFailure (operations ++ after) error := by
  induction h with
  | here fails => exact .here fails
  | later succeeds _ ih => exact .later succeeds ih

lemma append_right {operations before : List Operation} {error : RuntimeError}
    (hbefore : ∀ operation ∈ before, operation.Succeeds) (h : FirstFailure operations error) :
    FirstFailure (before ++ operations) error := by
  induction before with
  | nil => exact h
  | cons operation before ih =>
      rw [List.forall_mem_cons] at hbefore
      exact .later hbefore.1 (ih hbefore.2)

lemma exists_mem {operations : List Operation} {error : RuntimeError}
    (h : FirstFailure operations error) : ∃ operation ∈ operations, operation.FailsWith error := by
  induction h with
  | here fails => exact ⟨_, List.mem_cons_self, fails⟩
  | later _ _ ih =>
      rcases ih with ⟨operation, hmem, hfails⟩
      exact ⟨operation, List.mem_cons_of_mem _ hmem, hfails⟩

lemma unique {operations : List Operation} {error error' : RuntimeError}
    (h : FirstFailure operations error) (h' : FirstFailure operations error') :
    error = error' := by
  induction h with
  | here fails =>
      cases h' with
      | here fails' => exact fails.unique fails'
      | later succeeds' _ => exact absurd succeeds' fails.not_succeeds
  | later succeeds _ ih =>
      cases h' with
      | here fails' => exact absurd succeeds fails'.not_succeeds
      | later _ first' => exact ih first'

end FirstFailure

namespace Tree

/-- An operation that is not carried out has an operand that fails, or it fails itself. -/
lemma firstFailure_of_compute {m n : Notion} {left : Tree m} {right : Tree n} {op : Operator}
    {offset : Nat} {error : RuntimeError}
    (hl : left.evaluate = .error error → FirstFailure left.operations error)
    (hr : right.evaluate = .error error → FirstFailure right.operations error)
    (h : (do let l ← left.evaluate; let r ← right.evaluate; op.apply l r offset) = .error error) :
    FirstFailure (left.operations ++ right.operations ++ [⟨left, op, offset, right⟩]) error := by
  rcases bind_apply_eq_error_iff.1 h with
    hleft | ⟨l, hleft, hright⟩ | ⟨l, r, hleft, hright, happly⟩
  · exact ((hl hleft).append_left _).append_left _
  · have hsucceed := succeeds_of_yields (evaluate_eq_ok_iff.1 hleft)
    exact ((hr hright).append_right hsucceed).append_left _
  · rw [evaluate_eq_ok_iff] at hleft hright
    refine .append_right ?_ (.here ⟨l, r, hleft, hright, Operator.apply_eq_error_iff.1 happly⟩)
    exact List.forall_mem_append.2 ⟨succeeds_of_yields hleft, succeeds_of_yields hright⟩

/-- **Where checked arithmetic fails, it fails at the first operation that fails.** -/
theorem evaluate_eq_error_iff {notion : Notion} {tree : Tree notion} {error : RuntimeError} :
    tree.evaluate = .error error ↔ FirstFailure tree.operations error := by
  have sound : ∀ {notion : Notion} (tree : Tree notion) (error : RuntimeError),
      tree.evaluate = .error error → FirstFailure tree.operations error := by
    intro notion tree error h
    induction tree with
    | number n offset => cases h
    | group opening inner closing ih => exact ih h
    | factor only ih => exact ih h
    | product left op binds offset right ihl ihr => exact firstFailure_of_compute ihl ihr h
    | term only ih => exact ih h
    | sum left op binds offset right ihl ihr => exact firstFailure_of_compute ihl ihr h
  refine ⟨sound tree error, fun h => ?_⟩
  cases hvalue : tree.evaluate with
  | ok value =>
      obtain ⟨operation, hmem, hfails⟩ := h.exists_mem
      exact absurd (succeeds_of_yields (evaluate_eq_ok_iff.1 hvalue) operation hmem)
        hfails.not_succeeds
  | error error' => rw [(sound tree error' hvalue).unique h]

/-- What stands in the left operand stands in the operation. -/
lemma infix_left {part left right : List (Located Token)} {token : Located Token}
    (h : part <:+: left) : part <:+: left ++ token :: right :=
  h.trans (List.prefix_append _ _).isInfix

lemma infix_right {part left right : List (Located Token)} {token : Located Token}
    (h : part <:+: right) : part <:+: left ++ token :: right :=
  h.trans ((List.suffix_cons _ _).trans (List.suffix_append _ _)).isInfix

/-- The operator of an operation stands between the tokens of its operands. -/
lemma operation_tokens_infix {notion : Notion} {tree : Tree notion} :
    ∀ operation ∈ tree.operations,
      (operation.left.tokens ++ ⟨.operator operation.op, operation.offset⟩ ::
        operation.right.tokens) <:+: tree.tokens := by
  induction tree with
  | number n offset => simp [operations]
  | group opening inner closing ih =>
      intro operation hmem
      exact (ih operation hmem).trans ⟨[⟨.leftParen, opening⟩], [⟨.rightParen, closing⟩], rfl⟩
  | factor only ih => exact ih
  | product left op binds offset right ihl ihr =>
      simp only [operations, List.forall_mem_append, List.forall_mem_singleton]
      exact ⟨⟨fun operation hmem => infix_left (ihl operation hmem),
        fun operation hmem => infix_right (ihr operation hmem)⟩, List.infix_refl _⟩
  | term only ih => exact ih
  | sum left op binds offset right ihl ihr =>
      simp only [operations, List.forall_mem_append, List.forall_mem_singleton]
      exact ⟨⟨fun operation hmem => infix_left (ihl operation hmem),
        fun operation hmem => infix_right (ihr operation hmem)⟩, List.infix_refl _⟩

end Tree
end Calculator
