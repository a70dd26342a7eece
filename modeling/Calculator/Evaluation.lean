import Calculator.Evaluation.Rules

/-!
# Evaluation

The value of an input.  `evaluateWithin` is the whole way from text to value; the number of groups
that may be open at a time is its only parameter, and `evaluate` takes the usual one.  `Outcome`
keeps, beside the value or the error, which tokens had been pulled when it was known.
-/

namespace Calculator

namespace Evaluation

/-- How an evaluation came out, and the tokens it pulled, in order. -/
structure Outcome where
  result : Except EvaluationError Int
  pulled : List (Located Token)

/-- Evaluate an expression that is all there is: the end of the input has to follow it. -/
def whole (limit : Nat) (s : State) : Except Abort (Int × State) := do
  let (value, t) ← expression limit s
  if t.val.lookahead.value = .endOfInput then
    return (value, t.val)
  else
    .error (t.val.refuse (.unexpectedTrailingInput t.val.lookahead.value.kind))

/-- Evaluate what is ahead of a state. -/
def State.outcome (limit : Nat) (s : State) : Outcome :=
  match whole limit s with
  | .ok (value, t) => ⟨.ok value, t.pulled.reverse⟩
  | .error abort => ⟨.error abort.error, abort.pulled.reverse⟩

/-- Evaluate a stream of tokens. -/
def outcome (limit : Nat) (stream : TokenStream) : Outcome :=
  match State.start stream with
  | .ok s => s.outcome limit
  | .error error => ⟨.error (error.map .lexical), []⟩

end Evaluation

/-- The number of groups that may usually be open at a time. -/
def defaultMaxDepth : Nat := 256

/-- The value of an input in which at most `maxDepth` groups are open at a time. -/
def evaluateWithin (maxDepth : Nat) (input : String) : Except EvaluationError Int :=
  (Evaluation.outcome maxDepth (.ofString input)).result

/-- The value of an input. -/
def evaluate (input : String) : Except EvaluationError Int :=
  evaluateWithin defaultMaxDepth input

end Calculator
