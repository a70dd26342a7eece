import Calculator.Evaluation
import Calculator.Reader

/-!
# The log

What a run tells about itself on the way: each token as it is pulled, the end of the input too, and
the value of an evaluation that succeeds.  A lexeme that is no token is not logged; it is the error
that the run reports.
-/

namespace Calculator

/-- How much detail an entry of the log belongs to. -/
inductive Detail where
  | trace
  | debug
deriving DecidableEq

/-- An entry of the log. -/
inductive LogEntry where
  /-- A token was pulled. -/
  | token (pulled : Located Token)
  /-- An input was evaluated. -/
  | evaluated (input : String) (value : Int)
deriving DecidableEq

namespace LogEntry

/-- The detail to which an entry belongs. -/
def detail : LogEntry → Detail
  | .token _ => .trace
  | .evaluated _ _ => .debug

/-- The text of an entry. -/
def message : LogEntry → String
  | .token pulled =>
    "token " ++ pulled.value.label ++ " at offset " ++ Decimal.ofNat pulled.offset
  | .evaluated input value => "evaluated " ++ Quoted.text input ++ " to " ++ Decimal.ofInt value

end LogEntry

/-- The log of an evaluation: the tokens it pulled, and its value if it has one. -/
def evaluationLog (maxDepth : Nat) (input : String) : List LogEntry :=
  let outcome := Evaluation.outcome maxDepth (.ofString input)
  let tokens := outcome.pulled.map LogEntry.token
  match outcome.result with
  | .ok value => tokens ++ [.evaluated input value]
  | .error _ => tokens

/-- All tokens that can be pulled off a stream, the end of the input once. -/
def TokenStream.trace (stream : TokenStream) : List (Located Token) :=
  match stream.ending with
  | .endOfInput offset => stream.tokens ++ [⟨.endOfInput, offset⟩]
  | .failure _ => stream.tokens

/-- The log of tokenizing an input: all its tokens. -/
def tokenizationLog (input : String) : List LogEntry :=
  (TokenStream.ofString input).trace.map .token

end Calculator
