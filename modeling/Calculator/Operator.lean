/-!
# Operators

The four operators of the language and the two levels at which they bind.
-/

namespace Calculator

/-- A binary operator. -/
inductive Operator where
  | add
  | sub
  | mul
  | div
deriving DecidableEq

/-- How tightly an operator binds: products are formed before sums. -/
inductive Level where
  | additive
  | multiplicative
deriving DecidableEq

namespace Operator

/-- The level at which an operator binds. -/
def level : Operator → Level
  | .add => .additive
  | .sub => .additive
  | .mul => .multiplicative
  | .div => .multiplicative

/-- The character that stands for an operator. -/
def symbol : Operator → Char
  | .add => '+'
  | .sub => '-'
  | .mul => '*'
  | .div => '/'

/-- The operator for which a character stands. -/
def ofSymbol? : Char → Option Operator
  | '+' => some .add
  | '-' => some .sub
  | '*' => some .mul
  | '/' => some .div
  | _ => none

@[simp]
theorem ofSymbol?_symbol (op : Operator) : ofSymbol? op.symbol = some op := by
  cases op <;> rfl

theorem ofSymbol?_eq_some_iff {c : Char} {op : Operator} :
    ofSymbol? c = some op ↔ c = op.symbol := by
  constructor
  · intro h
    unfold ofSymbol? at h
    split at h <;> cases h <;> rfl
  · rintro rfl
    exact ofSymbol?_symbol op

end Operator

end Calculator
