import Calculator.Command.Invocation

/-!
# The arguments of the command

A run of the command is asked for by *switches* and one *operand*, in any order.  A switch has a
long name, written after two hyphens, and most have a letter, written after one hyphen and possibly
together with others.  Only `--max-depth` takes a value, which follows it after an equals sign or
as the next argument.  After a lone `--` everything is an operand.

The arguments are taken from left to right.  The first thing that is wrong with them, and the first
switch that asks for information instead of a calculation, settles the matter at once.

This belongs to the outer layer of the program: it decides which invocation is meant, and nothing
that an invocation does depends on how it was written.
-/

namespace Calculator.Command

/-- A switch of the command. -/
inductive Switch where
  | file
  | tokens
  | maxDepth
  | version
  | help
deriving DecidableEq

namespace Switch

/-- The switch with a long name. -/
def ofName? : String → Option Switch
  | "file" => some .file
  | "tokens" => some .tokens
  | "max-depth" => some .maxDepth
  | "version" => some .version
  | "help" => some .help
  | _ => none

/-- The switch with a letter. -/
def ofLetter? : Char → Option Switch
  | 'f' => some .file
  | 't' => some .tokens
  | 'V' => some .version
  | 'h' => some .help
  | _ => none

end Switch

/-- The shape of an argument. -/
inductive Argument where
  /-- Two hyphens and nothing else. -/
  | separator
  /-- A long name, and the value after an equals sign if there is one. -/
  | long (name : String) (value? : Option String)
  /-- Letters after one hyphen. -/
  | short (letters : List Char)
  /-- Anything else, a single hyphen too. -/
  | operand (text : String)
deriving DecidableEq

/-- The shape of an argument. -/
def Argument.ofString (text : String) : Argument :=
  match text.toList with
  | ['-', '-'] => .separator
  | '-' :: '-' :: body =>
    let name := String.ofList (body.takeWhile (· ≠ '='))
    match body.dropWhile (· ≠ '=') with
    | [] => .long name none
    | _ :: value => .long name (some (String.ofList value))
  | '-' :: letter :: letters => .short (letter :: letters)
  | _ => .operand text

/-- Why the arguments ask for no calculation. -/
inductive Halt where
  /-- They are not how the command is called. -/
  | misuse
  | version
  | help
deriving DecidableEq

/-- What the arguments taken so far have set. -/
structure Settings where
  file : Bool
  tokens : Bool
  maxDepth? : Option Nat
  operand? : Option String
deriving DecidableEq

/-- The greatest nesting depth that can be asked for, one less than two to the power of 64. -/
def maxDepthLimit : Nat := 18446744073709551615

/-- The nesting depth that a text stands for: digits, with a plus sign before them or not. -/
def readDepth? (text : String) : Option Nat :=
  let digits :=
    match text.toList with
    | '+' :: digits => digits
    | digits => digits
  if digits ≠ [] ∧ digits.all Char.isDigit ∧ Decimal.value digits ≤ maxDepthLimit then
    some (Decimal.value digits)
  else
    none

namespace Settings

/-- Nothing is set. -/
def initial : Settings :=
  ⟨false, false, none, none⟩

/-- Take a switch that has no value. -/
def takeSwitch (settings : Settings) (switch : Switch) : Except Halt Settings :=
  match switch with
  | .file =>
    if settings.file then .error .misuse else .ok { settings with file := true }
  | .tokens =>
    if settings.tokens then .error .misuse else .ok { settings with tokens := true }
  | .maxDepth => .error .misuse
  | .version => .error .version
  | .help => .error .help

/-- Take the letters of one argument in turn. -/
def takeLetters (settings : Settings) (letters : List Char) : Except Halt Settings :=
  letters.foldlM (fun settings letter =>
    match Switch.ofLetter? letter with
    | some switch => settings.takeSwitch switch
    | none => .error .misuse) settings

/-- Take a nesting depth. -/
def takeDepth (settings : Settings) (text : String) : Except Halt Settings :=
  match settings.maxDepth?, readDepth? text with
  | none, some depth => .ok { settings with maxDepth? := some depth }
  | _, _ => .error .misuse

/-- Take an operand, of which there is only one. -/
def takeOperand (settings : Settings) (text : String) : Except Halt Settings :=
  match settings.operand? with
  | some _ => .error .misuse
  | none => .ok { settings with operand? := some text }

/-- Take arguments that are operands, whatever they look like. -/
def takeOperands (settings : Settings) (args : List String) : Except Halt Settings :=
  args.foldlM takeOperand settings

/-- Take all arguments, from left to right. -/
def takeAll (settings : Settings) : List String → Except Halt Settings
  | [] => .ok settings
  | arg :: args =>
    match Argument.ofString arg with
    | .separator => settings.takeOperands args
    | .operand text => do (← settings.takeOperand text).takeAll args
    | .short letters => do (← settings.takeLetters letters).takeAll args
    | .long name value? =>
      match Switch.ofName? name, value? with
      | none, _ => .error .misuse
      | some .maxDepth, some value => do (← settings.takeDepth value).takeAll args
      | some .maxDepth, none =>
        match args with
        | [] => .error .misuse
        | next :: args =>
          match Argument.ofString next with
          | .operand value => do (← settings.takeDepth value).takeAll args
          | _ => .error .misuse
      | some _, some _ => .error .misuse
      | some switch, none => do (← settings.takeSwitch switch).takeAll args

/-- The calculation that the settings ask for. -/
def invocation (settings : Settings) : Except Halt Invocation :=
  match settings.operand? with
  | none => .error .misuse
  | some operand =>
    .ok ⟨operand, settings.file, settings.tokens, settings.maxDepth?.getD defaultMaxDepth⟩

end Settings

/-- The calculation that the arguments ask for. -/
def readArguments (args : List String) : Except Halt Invocation := do
  (← Settings.initial.takeAll args).invocation

end Calculator.Command
