import Calculator.Arithmetic

/-!
# The grammar and its derivation trees

The language without any way of reading it.  With `NUMBER` for a number token,

```
expression := term   (('+' | '-') term)*
term       := factor (('*' | '/') factor)*
factor     := NUMBER | '(' expression ')'
```

A derivation is a tree, one constructor for each way to build a notion.  A chain of operands leans
to the left: its last operator is at the root, and all before it is the left operand.  A tree keeps
the offset of each of its tokens, so `Tree.tokens` gives back exactly the tokens it derives.

The meaning of a tree is defined twice.  `Tree.Yields` works on unbounded integers, by arithmetic of
its own (`Tree.Computes`), and says of which tree a number is the value; `Tree.evaluate` computes in
post-order with checked arithmetic, and on failure gives the error of the first operation that
fails.
-/

namespace Calculator

/-- The notions of the grammar. -/
inductive Notion where
  | expression
  | term
  | factor
deriving DecidableEq

/-- A number fits if 64 bits with sign can hold it: the bounds are minus two to the power of 63 and
one less than two to that power. -/
def Fits (n : Int) : Prop :=
  -9223372036854775808 ≤ n ∧ n ≤ 9223372036854775807

instance (n : Int) : Decidable (Fits n) :=
  inferInstanceAs (Decidable (_ ∧ _))

/-- A derivation of a notion. -/
inductive Tree : Notion → Type where
  /-- A number is a factor. -/
  | number (value : Int) (offset : Nat) : Tree .factor
  /-- An expression in parentheses is a factor. -/
  | group (opening : Nat) (inner : Tree .expression) (closing : Nat) : Tree .factor
  /-- A factor is a term. -/
  | factor (only : Tree .factor) : Tree .term
  /-- A term goes on with `*` or `/` and a factor. -/
  | product (left : Tree .term) (op : Operator) (binds : op = .mul ∨ op = .div)
      (offset : Nat) (right : Tree .factor) : Tree .term
  /-- A term is an expression. -/
  | term (only : Tree .term) : Tree .expression
  /-- An expression goes on with `+` or `-` and a term. -/
  | sum (left : Tree .expression) (op : Operator) (binds : op = .add ∨ op = .sub)
      (offset : Nat) (right : Tree .term) : Tree .expression

namespace Tree

/-- The tokens that a tree derives, from left to right. -/
def tokens : {notion : Notion} → Tree notion → List (Located Token)
  | _, .number value offset => [⟨.number value, offset⟩]
  | _, .group opening inner closing =>
    ⟨.leftParen, opening⟩ :: (inner.tokens ++ [⟨.rightParen, closing⟩])
  | _, .factor only => only.tokens
  | _, .product left op _ offset right =>
    left.tokens ++ ⟨.operator op, offset⟩ :: right.tokens
  | _, .term only => only.tokens
  | _, .sum left op _ offset right =>
    left.tokens ++ ⟨.operator op, offset⟩ :: right.tokens

/-- The greatest number of groups of a tree that lie in each other. -/
def depth : {notion : Notion} → Tree notion → Nat
  | _, .number _ _ => 0
  | _, .group _ inner _ => inner.depth + 1
  | _, .factor only => only.depth
  | _, .product left _ _ _ right => max left.depth right.depth
  | _, .term only => only.depth
  | _, .sum left _ _ _ right => max left.depth right.depth

/-- What an operation comes to over the integers.  A quotient is rounded toward zero, and there is
none by zero. -/
def Computes : Operator → Int → Int → Int → Prop
  | .add, left, right, value => value = left + right
  | .sub, left, right, value => value = left - right
  | .mul, left, right, value => value = left * right
  | .div, left, right, value => right ≠ 0 ∧ value = left.tdiv right

/-- The value of an operation on the values of its operands: what it comes to over the integers, if
64 bits with sign can hold that. -/
def Combines (op : Operator) (left right value : Int) : Prop :=
  Computes op left right value ∧ Fits value

/-- The value of a tree over the integers: every operation has one, up to the root. -/
def Yields : {notion : Notion} → Tree notion → Int → Prop
  | _, .number n _, value => value = n
  | _, .group _ inner _, value => inner.Yields value
  | _, .factor only, value => only.Yields value
  | _, .product left op _ _ right, value =>
    ∃ l r, left.Yields l ∧ right.Yields r ∧ Combines op l r value
  | _, .term only, value => only.Yields value
  | _, .sum left op _ _ right, value =>
    ∃ l r, left.Yields l ∧ right.Yields r ∧ Combines op l r value

/-- Compute a tree in post-order: the left operand, the right operand, the operation. -/
def evaluate : {notion : Notion} → Tree notion → Except RuntimeError Int
  | _, .number value _ => .ok value
  | _, .group _ inner _ => inner.evaluate
  | _, .factor only => only.evaluate
  | _, .product left op _ offset right => do
    let l ← left.evaluate
    let r ← right.evaluate
    op.apply l r offset
  | _, .term only => only.evaluate
  | _, .sum left op _ offset right => do
    let l ← left.evaluate
    let r ← right.evaluate
    op.apply l r offset

end Tree

/-- A list of tokens derives from a notion. -/
def Derives (notion : Notion) (tokens : List (Located Token)) : Prop :=
  ∃ tree : Tree notion, tree.tokens = tokens

end Calculator
