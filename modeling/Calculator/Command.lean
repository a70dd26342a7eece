import Calculator.Command.Arguments

/-!
# The command

What the command answers to its arguments, given the contents of the file that they name.  If they
ask for a calculation, that is the response to the invocation; otherwise the command only says what
it is or how it is called.  One line of usage stands for the messages and the help of the arguments.
-/

namespace Calculator.Command

/-- The name and the version of the command. -/
def versionText : String :=
  "reckon 0.1.0\n"

/-- How the command is called. -/
def usageText : String :=
  "Usage: reckon [OPTIONS] <CONTENTS>\n"

/-- What the command answers when it is asked for no calculation. -/
def Halt.response : Halt → Response
  | .misuse => ⟨2, "", usageText⟩
  | .version => ⟨0, versionText, ""⟩
  | .help => ⟨0, usageText, ""⟩

/-- The file that has to be read before the command can answer. -/
def wantedFile? (args : List String) : Option String :=
  match readArguments args with
  | .ok invocation => if invocation.file then some invocation.operand else none
  | .error _ => none

/-- What the command answers to its arguments, given the contents of the wanted file if it could be
read. -/
def respond (args : List String) (contents? : Option ByteArray) : Response :=
  match readArguments args with
  | .ok invocation => invocation.response contents?
  | .error halt => halt.response

end Calculator.Command
