import Calculator.Located
import Calculator.Text.Quoted
import Calculator.Token

/-!
# Faults

Everything that can be wrong with an expression, by cause.  A **lexical** fault is in the
characters, a **syntactic** fault in the order of the tokens, and a **runtime** fault in the
calculation itself.  A fault and the offset at which it was found make an error, which
`report` puts into words.
-/

namespace Calculator

/-- What can be wrong with the characters of an expression. -/
inductive LexicalFault where
  /-- A character that is no part of any token. -/
  | unrecognizedCharacter (character : Char)
  /-- A run of digits whose number is out of range. -/
  | literalTooLarge (literal : String)
deriving DecidableEq

/-- What can be wrong with the order of the tokens. -/
inductive SyntaxFault where
  /-- One particular kind of token had to come here. -/
  | unexpectedToken (expected found : Token.Kind)
  /-- A group is still open and something other than its end comes. -/
  | expectedClosingParen (found : Token.Kind)
  /-- An operand had to come here. -/
  | expectedOperand (found : Token.Kind)
  /-- The expression is complete and something other than the end of the input comes. -/
  | unexpectedTrailingInput (found : Token.Kind)
deriving DecidableEq

/-- What can go wrong in the calculation. -/
inductive RuntimeFault where
  /-- A division has zero on its right. -/
  | divisionByZero
  /-- A result is out of range. -/
  | overflow
  /-- A group opens inside as many groups as are allowed. -/
  | nestingTooDeep (limit : Nat)
deriving DecidableEq

/-- Any fault of an evaluation. -/
inductive Fault where
  | lexical (fault : LexicalFault)
  | syntactic (fault : SyntaxFault)
  | runtime (fault : RuntimeFault)
deriving DecidableEq

/-- A lexical fault at its place. -/
abbrev LexicalError := Located LexicalFault

/-- A runtime fault at its place. -/
abbrev RuntimeError := Located RuntimeFault

/-- Any fault at its place. -/
abbrev EvaluationError := Located Fault

/-! ## What a fault says -/

namespace LexicalFault

/-- The fault in words. -/
def explanation : LexicalFault → String
  | .unrecognizedCharacter c => "Unrecognized character " ++ Quoted.character c ++ "."
  | .literalTooLarge literal => "Literal " ++ literal ++ " is too large."

end LexicalFault

namespace SyntaxFault

/-- What would have been in order, in words. -/
def expectation : SyntaxFault → String
  | .unexpectedToken expected _ => expected.description
  | .expectedClosingParen _ => Token.Kind.rightParen.description
  | .expectedOperand _ => "number or '('"
  | .unexpectedTrailingInput _ => Token.Kind.endOfInput.description

/-- The kind of token that was found instead. -/
def found : SyntaxFault → Token.Kind
  | .unexpectedToken _ found => found
  | .expectedClosingParen found => found
  | .expectedOperand found => found
  | .unexpectedTrailingInput found => found

/-- The fault in words. -/
def explanation : SyntaxFault → String
  | .unexpectedToken expected found =>
    "Expected " ++ expected.description ++ ", found " ++ found.description ++ "."
  | .expectedClosingParen found =>
    "Expected closing parenthesis ')' but found " ++ found.description ++ "."
  | .expectedOperand found => "Expected number or '(', found " ++ found.description ++ "."
  | .unexpectedTrailingInput found =>
    "Unexpected trailing input starting with " ++ found.description ++ "."

end SyntaxFault

namespace RuntimeFault

/-- The fault in words. -/
def explanation : RuntimeFault → String
  | .divisionByZero => "Division by zero."
  | .overflow => "Integer overflow while trying to compute result."
  | .nestingTooDeep limit =>
    "Parentheses nested deeper than " ++ Decimal.ofNat limit ++ " levels."

end RuntimeFault

/-- The kind of a fault, by which a caller can tell what sort of failure it has. -/
inductive Fault.Kind where
  | lexical
  | syntactic
  | divisionByZero
  | overflow
  | nestingTooDeep
deriving DecidableEq

namespace Fault

/-- The kind of a fault. -/
def kind : Fault → Kind
  | .lexical _ => .lexical
  | .syntactic _ => .syntactic
  | .runtime .divisionByZero => .divisionByZero
  | .runtime .overflow => .overflow
  | .runtime (.nestingTooDeep _) => .nestingTooDeep

/-- The fault in words. -/
def explanation : Fault → String
  | .lexical fault => fault.explanation
  | .syntactic fault => fault.explanation
  | .runtime fault => fault.explanation

end Fault

/-- The report of an error: where it was found, and then the fault in words. -/
def report (offset : Nat) (explanation : String) : String :=
  "Error at offset " ++ Decimal.ofNat offset ++ ": " ++ explanation

/-- The message of a lexical error. -/
def LexicalError.message (error : LexicalError) : String :=
  report error.offset error.value.explanation

/-- The message of an error. -/
def EvaluationError.message (error : EvaluationError) : String :=
  report error.offset error.value.explanation

end Calculator
