import Calculator.Fault

/-!
# Checked arithmetic

Numbers are integers of 64 bits with sign.  An operation is carried out exactly, on unbounded
integers, and its result counts only if it is back in range; so a result is either exact or an
error, and the error names the operator by its offset.
-/

namespace Calculator

/-- The least number in range, minus two to the power of 63. -/
def minNumber : Int := -9223372036854775808

/-- The greatest number in range, one less than two to the power of 63. -/
def maxNumber : Int := 9223372036854775807

/-- A number is in range if 64 bits with sign can hold it. -/
def InRange (n : Int) : Prop :=
  minNumber ≤ n ∧ n ≤ maxNumber

instance (n : Int) : Decidable (InRange n) :=
  inferInstanceAs (Decidable (_ ∧ _))

namespace Operator

/-- The exact result of an operation.  A quotient is rounded toward zero. -/
def exact : Operator → Int → Int → Int
  | .add, left, right => left + right
  | .sub, left, right => left - right
  | .mul, left, right => left * right
  | .div, left, right => left.tdiv right

/-- Carry out an operation whose operator stands at `offset`: its exact result, unless it divides
by zero or leaves the range. -/
def apply (op : Operator) (left right : Int) (offset : Nat) : Except RuntimeError Int :=
  if op = .div ∧ right = 0 then
    .error ⟨.divisionByZero, offset⟩
  else if InRange (op.exact left right) then
    .ok (op.exact left right)
  else
    .error ⟨.overflow, offset⟩

end Operator

end Calculator
