import Calculator.Arithmetic
import Calculator.Text.ByteLength

/-!
# Lexemes

A lexeme is a piece of the input that is read as a whole: a run of digits, a symbol, or a
character that belongs to no token.  `Lexeme.read` says which token it is, or what is wrong with
it.
-/

namespace Calculator

/-- A piece of the input: the byte at which it starts and its characters, of which there is at
least one. -/
structure Lexeme where
  start : Nat
  first : Char
  more : List Char
deriving DecidableEq

namespace Lexeme

/-- The characters of a lexeme. -/
def text (lexeme : Lexeme) : List Char :=
  lexeme.first :: lexeme.more

/-- The byte just after a lexeme. -/
def stop (lexeme : Lexeme) : Nat :=
  lexeme.start + byteLength lexeme.text

/-- The token that a lexeme is: the number that its digits stand for, if that is in range, or
the token of its symbol. -/
def read (lexeme : Lexeme) : Except LexicalFault Token :=
  if lexeme.first.isDigit then
    if Decimal.value lexeme.text ≤ maxNumber then
      .ok (.number (Decimal.value lexeme.text))
    else
      .error (.literalTooLarge (String.ofList lexeme.text))
  else
    match Token.ofSymbol? lexeme.first with
    | some token => .ok token
    | none => .error (.unrecognizedCharacter lexeme.first)

/-- No lexeme is the end of the input. -/
theorem read_ne_endOfInput (lexeme : Lexeme) : lexeme.read ≠ .ok .endOfInput := by
  unfold read
  split
  · split <;> simp
  · split
    · rename_i token htoken
      rintro ⟨⟩
      exact Token.ofSymbol?_ne_endOfInput _ htoken
    · simp

end Lexeme

end Calculator
