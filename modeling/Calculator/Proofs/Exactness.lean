import Mathlib.Tactic.Common
import Calculator.Proofs.Operations

/-!
# Checked arithmetic is exact

An operation computes on unbounded integers and then looks whether the result is in range.  What it
computes is told here without that computation: sums, differences and products by the ring
operations of the integers, and quotients by what they leave over.

* **Quotients**: `IsQuotient` says of a quotient that nothing smaller could be left over and on
  which side of zero that lies.  There is one such quotient and no other, `isQuotient_tdiv` and
  `IsQuotient.unique`.
* **Range**: a single quotient of numbers in range is not in range, `not_inRange_tdiv_iff`.

`Operator.apply_exact` says for each operator what it gives.
-/

namespace Calculator

/-! ## Quotients -/

/-- A quotient, rounded toward zero. -/
structure IsQuotient (left right quotient : Int) : Prop where
  /-- What is left over is smaller than the divisor. -/
  remainder_lt : (left - quotient * right).natAbs < right.natAbs
  /-- It lies on the same side of zero as the dividend. -/
  sign_eq : left - quotient * right = 0 ∨ (left - quotient * right).sign = left.sign

/-- Rounding toward zero gives such a quotient. -/
theorem isQuotient_tdiv (left : Int) {right : Int} (hright : right ≠ 0) :
    IsQuotient left right (left.tdiv right) := by
  have hremainder : left - left.tdiv right * right = left.tmod right := by
    rw [Int.tmod_def, Int.mul_comm]
  constructor
  · rw [hremainder, Int.natAbs_tmod]
    exact Nat.mod_lt _ (Int.natAbs_pos.2 hright)
  · rw [hremainder, Int.sign_tmod]
    by_cases hdvd : right ∣ left
    · exact .inl (Int.tmod_eq_zero_of_dvd hdvd)
    · exact .inr (if_neg hdvd)

/-- Two numbers smaller than the divisor on the same side of zero differ by less than the
divisor. -/
lemma natAbs_sub_lt {left first second bound : Int} (hfirst : first.natAbs < bound.natAbs)
    (hsecond : second.natAbs < bound.natAbs) (hsign : first = 0 ∨ first.sign = left.sign)
    (hsign' : second = 0 ∨ second.sign = left.sign) :
    (first - second).natAbs < bound.natAbs := by
  rcases Int.lt_trichotomy left 0 with hleft | rfl | hleft
  · rw [Int.sign_eq_neg_one_of_neg hleft, Int.sign_eq_neg_one_iff_neg] at hsign hsign'
    omega
  · rw [Int.sign_zero, Int.sign_eq_zero_iff_zero] at hsign hsign'
    omega
  · rw [Int.sign_eq_one_of_pos hleft, Int.sign_eq_one_iff_pos] at hsign hsign'
    omega

/-- **There is only one quotient.** -/
theorem IsQuotient.unique {left right quotient other : Int} (h : IsQuotient left right quotient)
    (hother : IsQuotient left right other) : other = quotient := by
  have hlt := natAbs_sub_lt h.remainder_lt hother.remainder_lt h.sign_eq hother.sign_eq
  have hdiff : (left - quotient * right) - (left - other * right) = (other - quotient) * right := by
    rw [Int.sub_mul]
    omega
  have hzero : (other - quotient) * right = 0 := by
    rw [hdiff] at hlt
    exact Int.eq_zero_of_dvd_of_natAbs_lt_natAbs (Int.dvd_mul_left _ _) hlt
  have hright : right ≠ 0 := Int.natAbs_pos.1 (Nat.zero_lt_of_lt h.remainder_lt)
  have hequal := (Int.mul_eq_zero.1 hzero).resolve_right hright
  omega

/-! ## Range -/

/-- A divisor other than one and minus one makes a number at most half as large. -/
lemma natAbs_tdiv_le_half (left : Int) {right : Int} (hright : right.natAbs ≠ 1) :
    (left.tdiv right).natAbs ≤ left.natAbs / 2 := by
  have hsize : (left.tdiv right).natAbs = left.natAbs / right.natAbs := Int.natAbs_tdiv left right
  rw [hsize]
  rcases Nat.eq_zero_or_pos right.natAbs with hzero | hpos
  · rw [hzero, Nat.div_zero]
    exact Nat.zero_le _
  · exact Nat.div_le_div_left (by omega) (by decide)

/-- **Only the quotient of the least number by minus one is out of range.** -/
theorem not_inRange_tdiv_iff {left right : Int} (hleft : InRange left) :
    ¬InRange (left.tdiv right) ↔ left = minNumber ∧ right = -1 := by
  rw [InRange, minNumber, maxNumber] at *
  constructor
  · intro h
    by_cases hunit : right.natAbs = 1
    · obtain rfl | rfl : right = 1 ∨ right = -1 := by omega
      · rw [Int.tdiv_one] at h
        exact absurd hleft h
      · rw [Int.tdiv_neg, Int.tdiv_one] at h
        omega
    · have hhalf := natAbs_tdiv_le_half left hunit
      omega
  · rintro ⟨rfl, rfl⟩
    decide

/-! ## Operations -/

namespace Operator

/-- An operation that is no division fails only out of range. -/
lemma apply_of_ne_div {op : Operator} (hop : op ≠ .div) (left right : Int) (offset : Nat) :
    op.apply left right offset
      = if InRange (op.exact left right) then .ok (op.exact left right)
        else .error ⟨.overflow, offset⟩ :=
  if_neg fun hzero => hop hzero.1

/-- **Arithmetic is exact.** A sum, a difference or a product is what it is over the integers, if
that is in range, and otherwise an overflow.  A quotient is a division by zero exactly for the
divisor zero, an overflow exactly for the least number by minus one, and in all other cases the one
quotient that is rounded toward zero. -/
theorem apply_exact {left right : Int} (hleft : InRange left) (offset : Nat) :
    (∀ operation ∈ [(Operator.add, left + right), (.sub, left - right), (.mul, left * right)],
        operation.1.apply left right offset
          = if InRange operation.2 then .ok operation.2 else .error ⟨.overflow, offset⟩)
      ∧ (Operator.div.apply left right offset = .error ⟨.divisionByZero, offset⟩ ↔ right = 0)
      ∧ (Operator.div.apply left right offset = .error ⟨.overflow, offset⟩
          ↔ left = minNumber ∧ right = -1)
      ∧ (right ≠ 0 → ¬(left = minNumber ∧ right = -1) →
          ∃ quotient, Operator.div.apply left right offset = .ok quotient
            ∧ IsQuotient left right quotient
            ∧ ∀ other, IsQuotient left right other → other = quotient) := by
  refine ⟨?_, ?_, ?_, ?_⟩
  · simp only [List.forall_mem_cons]
    exact ⟨apply_of_ne_div (by decide) left right offset,
      apply_of_ne_div (by decide) left right offset,
      apply_of_ne_div (by decide) left right offset, List.forall_mem_nil _⟩
  · rw [apply_eq_error_iff]
    simp
  · rw [apply_eq_error_iff, ← not_inRange_tdiv_iff hleft]
    simp only [Located.mk.injEq, reduceCtorEq, and_false, and_true, false_or, Tree.Computes,
      fits_iff_inRange]
    constructor
    · rintro ⟨_, ⟨-, rfl⟩, hrange⟩
      exact hrange
    · intro hrange
      refine ⟨left.tdiv right, ⟨?_, rfl⟩, hrange⟩
      rintro rfl
      exact hrange (by rw [Int.tdiv_zero]; decide)
  · intro hright hleast
    have hrange : InRange (left.tdiv right) := by
      by_contra hrange
      exact hleast ((not_inRange_tdiv_iff hleft).1 hrange)
    have hquotient := isQuotient_tdiv left hright
    exact ⟨left.tdiv right, apply_eq_ok_iff.2 ⟨⟨hright, rfl⟩, fits_iff_inRange.2 hrange⟩,
      hquotient, fun other hother => hquotient.unique hother⟩

/-- The least number by minus one is too large; by ten it leaves minus eight over. -/
theorem apply_exact_least :
    InRange minNumber ∧ Operator.div.apply minNumber (-1) 3 = .error ⟨.overflow, 3⟩
      ∧ Operator.div.apply minNumber 10 3 = .ok (-922337203685477580) := by
  have hrange : InRange minNumber := by decide
  obtain ⟨quotient, hquotient, -, hunique⟩ :=
    (@apply_exact minNumber 10 hrange 3).2.2.2 (by decide) (by decide)
  have hten : IsQuotient minNumber 10 (-922337203685477580) := ⟨by decide, by decide⟩
  rw [← hunique _ hten] at hquotient
  exact ⟨hrange, (apply_exact hrange 3).2.2.1.2 ⟨rfl, rfl⟩, hquotient⟩

end Operator

end Calculator
