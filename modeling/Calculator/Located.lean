/-!
# Located values

Everything a calculation reads or reports stands somewhere in the input: a token begins at a
byte, an error points at one.  `Located α` is a value together with that byte offset, counted in
the UTF-8 encoding of the input.
-/

namespace Calculator

/-- A value and the byte offset at which it stands in the input. -/
structure Located (α : Type) where
  value : α
  offset : Nat
deriving DecidableEq

namespace Located

/-- Change the value and leave it where it stands. -/
def map {α β : Type} (f : α → β) (x : Located α) : Located β :=
  ⟨f x.value, x.offset⟩

end Located

end Calculator
