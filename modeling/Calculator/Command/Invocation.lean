import Calculator.Evaluation

/-!
# Invocations of the command

What the command does once its arguments are read.  An invocation gives an expression, or the name
of a file that holds it, and says whether the tokens are asked for and how many groups may be open.
With the tokens asked for they are listed first, one to a line; then comes the value, or the message
of the error on the other channel.
-/

namespace Calculator.Command

/-- The answer of the command. -/
structure Response where
  exitCode : Nat
  stdout : String
  stderr : String
deriving DecidableEq

/-- A calculation that is asked for. -/
structure Invocation where
  /-- The expression, or the name of the file that holds it. -/
  operand : String
  /-- Whether the operand names a file. -/
  file : Bool
  /-- Whether the tokens are listed before the result. -/
  tokens : Bool
  /-- The number of groups that may be open at a time. -/
  maxDepth : Nat
deriving DecidableEq

/-- The text without the line ending with which it may close: a carriage return and a line feed, or
a line feed. -/
def stripLineEnding (text : String) : String :=
  match text.toList.reverse with
  | '\n' :: '\r' :: reversed => String.ofList reversed.reverse
  | '\n' :: reversed => String.ofList reversed.reverse
  | _ => text

/-- The line of a token: its offset in at least four columns, two spaces, and its text. -/
def tokenLine (token : Located Token) : String :=
  Decimal.rightAligned 4 token.offset ++ "  " ++ token.value.text ++ "\n"

/-- The lines of all tokens, in order. -/
def listing (tokens : List (Located Token)) : String :=
  String.join (tokens.map tokenLine)

/-- Fail with a message, after what has been written already. -/
def failure (written message : String) : Response :=
  ⟨1, written, message ++ "\n"⟩

/-- The value of an expression, after what has been written already. -/
def valueResponse (maxDepth : Nat) (expression written : String) : Response :=
  match evaluateWithin maxDepth expression with
  | .ok value => ⟨0, written ++ Decimal.ofInt value ++ "\n", ""⟩
  | .error error => failure written error.message

/-- The tokens of an expression, if they are asked for, and its value.  If it has a lexical error
there is nothing to list, and that error is the answer. -/
def calculate (maxDepth : Nat) (tokens : Bool) (expression : String) : Response :=
  if tokens then
    match tokenize expression with
    | .ok found => valueResponse maxDepth expression (listing found)
    | .error error => failure "" error.message
  else
    valueResponse maxDepth expression ""

namespace Invocation

/-- The text to which an invocation applies: its operand, or the contents of the file that it
names, if they are there and are text. -/
def source? (invocation : Invocation) (contents? : Option ByteArray) : Option String :=
  if invocation.file then contents?.bind String.fromUTF8? else some invocation.operand

/-- What the command answers to an invocation. -/
def response (invocation : Invocation) (contents? : Option ByteArray) : Response :=
  match invocation.source? contents? with
  | some text => calculate invocation.maxDepth invocation.tokens (stripLineEnding text)
  | none =>
    failure "" ("Failed to read the input file '" ++ invocation.operand
      ++ "'. Perhaps this file does not exist?")

end Invocation

end Calculator.Command
