import Calculator.TokenStream

/-!
# An operator-precedence machine

A second way to the value of a token stream, without recursion on the structure of expressions and
with arithmetic of its own.  The machine takes one token after the other.  Its configuration is a
stack of *frames*, one for the whole expression and one for each group that is open; a frame
remembers at most one additive and one multiplicative operation that wait for their right operand.

The machine either **wants an operand** or **holds** one.  When it holds one, the token that comes
decides what is waiting no longer: a multiplicative operation never waits past its right operand,
and an additive operation waits only as long as multiplicative operators follow.
-/

namespace Calculator.Machine

/-- An operation that waits for its right operand. -/
structure Pending where
  left : Int
  op : Operator
  offset : Nat
deriving DecidableEq

/-- What waits inside one pair of parentheses. -/
structure Frame where
  additive? : Option Pending
  multiplicative? : Option Pending
deriving DecidableEq

/-- Nothing waits. -/
def Frame.empty : Frame :=
  ⟨none, none⟩

/-- The configuration of the machine. -/
structure Configuration where
  /-- The frame of the innermost group that is open, or of the whole expression. -/
  top : Frame
  /-- The frames around it, the innermost one first. -/
  outer : List Frame
  /-- The operand that the machine holds, or none if it wants one. -/
  operand? : Option Int
deriving DecidableEq

/-- The operator between factors that a token is: `*` or `/`. -/
def factorOperator? : Token → Option Operator
  | .operator .mul => some .mul
  | .operator .div => some .div
  | _ => none

/-- The operator between terms that a token is: `+` or `-`. -/
def termOperator? : Token → Option Operator
  | .operator .add => some .add
  | .operator .sub => some .sub
  | _ => none

/-- What an operation that waits comes to over the integers.  A quotient is rounded toward zero. -/
def Pending.result (pending : Pending) (right : Int) : Int :=
  match pending.op with
  | .add => pending.left + right
  | .sub => pending.left - right
  | .mul => pending.left * right
  | .div => pending.left.tdiv right

/-- Carry out a waiting operation, if there is one, with its right operand: no divisor may be zero,
and 64 bits with sign have to hold the result. -/
def settle (pending? : Option Pending) (right : Int) : Except EvaluationError Int :=
  match pending? with
  | none => .ok right
  | some pending =>
    if pending.op = .div ∧ right = 0 then
      .error ⟨.runtime .divisionByZero, pending.offset⟩
    else if -9223372036854775808 ≤ pending.result right
        ∧ pending.result right ≤ 9223372036854775807 then
      .ok (pending.result right)
    else
      .error ⟨.runtime .overflow, pending.offset⟩

namespace Configuration

/-- At the start one empty frame wants an operand. -/
def initial : Configuration :=
  ⟨.empty, [], none⟩

/-- Take a token while an operand is wanted. -/
def want (limit : Nat) (top : Frame) (outer : List Frame) (token : Located Token) :
    Except EvaluationError Configuration :=
  match token.value with
  | .number value => .ok ⟨top, outer, some value⟩
  | .leftParen =>
    if limit ≤ outer.length then
      .error ⟨.runtime (.nestingTooDeep limit), token.offset⟩
    else
      .ok ⟨.empty, top :: outer, none⟩
  | found => .error ⟨.syntactic (.expectedOperand found.kind), token.offset⟩

/-- Take a token while an operand is held. -/
def hold (top : Frame) (outer : List Frame) (operand : Int) (token : Located Token) :
    Except EvaluationError Configuration := do
  let factor ← settle top.multiplicative? operand
  match factorOperator? token.value with
  | some op => return ⟨⟨top.additive?, some ⟨factor, op, token.offset⟩⟩, outer, none⟩
  | none =>
    let term ← settle top.additive? factor
    match termOperator? token.value with
    | some op => return ⟨⟨some ⟨term, op, token.offset⟩, none⟩, outer, none⟩
    | none =>
      match outer with
      | [] => .error ⟨.syntactic (.unexpectedTrailingInput token.value.kind), token.offset⟩
      | below :: outer =>
        if token.value = .rightParen then
          return ⟨below, outer, some term⟩
        else
          .error ⟨.syntactic (.expectedClosingParen token.value.kind), token.offset⟩

/-- Take a token other than the end of the input. -/
def take (limit : Nat) (c : Configuration) (token : Located Token) :
    Except EvaluationError Configuration :=
  match c.operand? with
  | none => want limit c.top c.outer token
  | some operand => hold c.top c.outer operand token

/-- Take the end of the input. -/
def finish (c : Configuration) (offset : Nat) : Except EvaluationError Int :=
  match c.operand? with
  | none => .error ⟨.syntactic (.expectedOperand .endOfInput), offset⟩
  | some operand => do
    let factor ← settle c.top.multiplicative? operand
    let term ← settle c.top.additive? factor
    match c.outer with
    | [] => return term
    | _ :: _ => .error ⟨.syntactic (.expectedClosingParen .endOfInput), offset⟩

/-- Take tokens one after the other, and then their ending. -/
def run (limit : Nat) (c : Configuration) :
    List (Located Token) → Ending → Except EvaluationError Int
  | token :: tokens, ending => do (← c.take limit token).run limit tokens ending
  | [], .endOfInput offset => c.finish offset
  | [], .failure error => .error (error.map .lexical)

end Configuration

/-- What the machine makes of a token stream. -/
def evaluate (limit : Nat) (stream : TokenStream) : Except EvaluationError Int :=
  Configuration.initial.run limit stream.tokens stream.ending

end Calculator.Machine
