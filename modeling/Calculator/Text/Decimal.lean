/-!
# Decimal numerals

Writing and reading whole numbers in base ten.  A numeral is written with no leading zeros and
no sign but a minus; it is read from any run of digits, leading zeros included.  The main
statement is that reading undoes writing: `value_digits`.
-/

namespace Calculator.Decimal

/-- The digits of a natural number, most significant first. -/
def digits (n : Nat) : List Char :=
  Nat.toDigits 10 n

/-- The number that a run of decimal digits stands for, however many zeros lead it. -/
def value (text : List Char) : Nat :=
  Nat.ofDigitChars 10 text 0

/-- The numeral of a natural number. -/
def ofNat (n : Nat) : String :=
  String.ofList (digits n)

/-- The numeral of an integer: a minus sign stands before the digits of a negative one. -/
def ofInt : Int → String
  | .ofNat n => ofNat n
  | .negSucc n => "-" ++ ofNat (n + 1)

/-- **Reading undoes writing.** -/
theorem value_digits (n : Nat) : value (digits n) = n :=
  Nat.ofDigitChars_ten_toDigits

/-- Hence two numbers with one numeral are equal. -/
theorem digits_inj {m n : Nat} (h : digits m = digits n) : m = n := by
  rw [← value_digits m, h, value_digits]

/-- A numeral has at least one digit. -/
theorem digits_ne_nil (n : Nat) : digits n ≠ [] :=
  Nat.toDigits_ne_nil

/-- Every character of a numeral is a digit. -/
theorem isDigit_of_mem_digits {n : Nat} {c : Char} (h : c ∈ digits n) : c.isDigit = true :=
  Nat.isDigit_of_mem_toDigits (by decide) (by decide) h

/-- The numeral with blanks before it, so that it fills at least `width` columns. -/
def rightAligned (width n : Nat) : String :=
  String.ofList (List.leftpad width ' ' (digits n))

end Calculator.Decimal
