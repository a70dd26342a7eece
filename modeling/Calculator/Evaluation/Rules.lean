import Calculator.Evaluation.State

/-!
# The rules of evaluation

An expression is evaluated while it is read, one rule for each notion of the grammar.

* An **expression** is a chain of terms joined by additive operators.
* A **term** is a chain of factors joined by multiplicative operators.
* A **factor** is a number or a group.
* A **group** is an expression in parentheses.

Each rule decides by the lookahead alone.  A chain is computed from the left: an operation is
carried out as soon as its right operand is read and the token after that operand is pulled.
-/

namespace Calculator.Evaluation

/-- What a rule gives in a state: a value and the state after it, or a failure. -/
abbrev Result (s : State) : Type :=
  Except Abort (Int × s.Progress)

/-- Go on with a chain whose operators bind at `level`: as long as such an operator comes, read
the operand after it and compute.  `origin` is where the chain began. -/
def chain (level : Level) (origin : State)
    (operand : (u : State) → u.unread < origin.unread → Result u)
    (left : Int) (s : origin.Progress) : Result origin :=
  match s.val.lookahead.value.operatorAt? level with
  | none => .ok (left, s)
  | some op => do
    let t ← s.val.consume (.operator op) nofun
    let (right, u) ← operand t.val (Nat.lt_trans t.property s.property)
    let value ← u.val.compute op left right s.val.lookahead.offset
    have : u.val.unread < s.val.unread := Nat.lt_trans u.property t.property
    chain level origin operand value (s.extend (t.extend u))
termination_by s.val.unread

mutual

/-- Evaluate an expression, with at most `limit` groups open at a time. -/
def expression (limit : Nat) (s : State) : Result s := do
  let (left, t) ← term limit s
  chain .additive s (fun u _ => term limit u) left t
termination_by (s.unread, 3)

/-- Evaluate a term. -/
def term (limit : Nat) (s : State) : Result s := do
  let (left, t) ← factor limit s
  chain .multiplicative s (fun u _ => factor limit u) left t
termination_by (s.unread, 2)

/-- Evaluate a factor. -/
def factor (limit : Nat) (s : State) : Result s :=
  match s.lookahead.value with
  | .number value => do
    let t ← s.consume .number nofun
    return (value, t)
  | .leftParen => group limit s
  | token => .error (s.refuse (.expectedOperand token.kind))
termination_by (s.unread, 1)

/-- Evaluate a group, unless as many groups as are allowed are open already. -/
def group (limit : Nat) (s : State) : Result s :=
  if limit ≤ s.depth then
    .error (s.abort ⟨.runtime (.nestingTooDeep limit), s.lookahead.offset⟩)
  else do
    let t ← s.consume .leftParen nofun
    have : t.val.enter.unread < s.unread := t.property
    let (value, u) ← expression limit t.val.enter
    if u.val.lookahead.value = .rightParen then
      let v ← u.val.leave.consume .rightParen nofun
      return (value, t.extend (u.extend v))
    else
      .error (u.val.refuse (.expectedClosingParen u.val.lookahead.value.kind))
termination_by (s.unread, 0)

end

end Calculator.Evaluation
