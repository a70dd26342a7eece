import Calculator.Operator
import Calculator.Text.Decimal

/-!
# Tokens

The units of which an expression is made.  A token carries its number, if it is one; its
*kind* leaves the number out.  The end of the input is a token too, so that whoever looks ahead
always has a token before him.
-/

namespace Calculator

/-- The kind of a token. -/
inductive Token.Kind where
  | number
  | operator (op : Operator)
  | leftParen
  | rightParen
  | endOfInput
deriving DecidableEq

/-- A token: a number, an operator, a parenthesis, or the end of the input. -/
inductive Token where
  | number (value : Int)
  | operator (op : Operator)
  | leftParen
  | rightParen
  | endOfInput
deriving DecidableEq

namespace Token

/-- The kind of a token. -/
def kind : Token → Kind
  | .number _ => .number
  | .operator op => .operator op
  | .leftParen => .leftParen
  | .rightParen => .rightParen
  | .endOfInput => .endOfInput

/-- The text of a token: a numeral, the symbol itself, or words for the end of the input. -/
def text : Token → String
  | .number n => Decimal.ofInt n
  | .operator op => String.singleton op.symbol
  | .leftParen => "("
  | .rightParen => ")"
  | .endOfInput => "end of input"

/-- The token for which a character stands by itself. -/
def ofSymbol? (c : Char) : Option Token :=
  if c = '(' then some .leftParen
  else if c = ')' then some .rightParen
  else (Operator.ofSymbol? c).map .operator

/-- No symbol stands for the end of the input. -/
theorem ofSymbol?_ne_endOfInput (c : Char) : ofSymbol? c ≠ some .endOfInput := by
  unfold ofSymbol?
  split
  · simp
  · split <;> simp

/-- A token for which a single character stands. -/
def IsSymbol : Token → Prop
  | .operator _ => True
  | .leftParen => True
  | .rightParen => True
  | _ => False

instance : (token : Token) → Decidable token.IsSymbol
  | .operator _ | .leftParen | .rightParen => .isTrue trivial
  | .number _ | .endOfInput => .isFalse id

/-- A character stands for the token of which it is all of the text. -/
theorem isSymbol_of_ofSymbol? {c : Char} {token : Token} (h : ofSymbol? c = some token) :
    token.IsSymbol ∧ token.text.toList = [c] := by
  unfold ofSymbol? at h
  split at h
  · rename_i hc
    cases h
    exact ⟨trivial, by rw [hc]; rfl⟩
  · split at h
    · rename_i hc
      cases h
      exact ⟨trivial, by rw [hc]; rfl⟩
    · obtain ⟨op, hop, rfl⟩ := Option.map_eq_some_iff.1 h
      refine ⟨trivial, ?_⟩
      rw [Operator.ofSymbol?_eq_some_iff.1 hop]
      exact String.toList_singleton _

/-- The operator that a token is. -/
def operator? : Token → Option Operator
  | .operator op => some op
  | _ => none

/-- The operator that a token is, if it binds at the given level. -/
def operatorAt? (level : Level) (token : Token) : Option Operator :=
  token.operator?.filter fun op => op.level = level

theorem operatorAt?_eq_some_iff {level : Level} {token : Token} {op : Operator} :
    token.operatorAt? level = some op ↔ token = .operator op ∧ op.level = level := by
  cases token <;> simp [operatorAt?, operator?]

/-- Only the end of the input has that kind. -/
@[simp]
theorem kind_eq_endOfInput_iff {token : Token} :
    token.kind = .endOfInput ↔ token = .endOfInput := by
  cases token <;> simp [kind]

namespace Kind

/-- How a message speaks of a kind of token. -/
def description : Kind → String
  | .number => "number"
  | .operator op => "'" ++ String.singleton op.symbol ++ "'"
  | .leftParen => "'('"
  | .rightParen => "')'"
  | .endOfInput => "end of input"

/-- The name of a kind of token, as the log writes it. -/
def name : Kind → String
  | .number => "Number"
  | .operator .add => "Plus"
  | .operator .sub => "Minus"
  | .operator .mul => "Star"
  | .operator .div => "Slash"
  | .leftParen => "LParen"
  | .rightParen => "RParen"
  | .endOfInput => "EndOfInput"

end Kind

/-- The label of a token in the log: the name of its kind, and its number in parentheses. -/
def label : Token → String
  | .number n => Kind.name .number ++ "(" ++ Decimal.ofInt n ++ ")"
  | token => token.kind.name

end Token

end Calculator
