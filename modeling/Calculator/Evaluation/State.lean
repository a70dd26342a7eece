import Calculator.TokenStream

/-!
# The state of an evaluation

An evaluation goes through a token stream with one token of lookahead: the lookahead is the first
token that is not yet consumed, and it has been pulled off the stream.  Beside it the state keeps
the tokens consumed so far and the number of groups that are open.

Every step forward consumes a token other than the end of the input.  So what is still unread gets
less each time, and `State.Progress` records that in the type of what a step gives.
-/

namespace Calculator.Evaluation

/-- The state of an evaluation. -/
structure State where
  /-- The tokens consumed so far, the last one first. -/
  consumed : List (Located Token)
  /-- The first token that is not yet consumed. -/
  lookahead : Located Token
  /-- The tokens after the lookahead. -/
  upcoming : TokenStream
  /-- The number of groups that are open. -/
  depth : Nat
deriving DecidableEq

/-- How an evaluation fails: the error, and the tokens pulled until then, the last one first. -/
structure Abort where
  error : EvaluationError
  pulled : List (Located Token)
deriving DecidableEq

namespace State

/-- The state after the first token of a stream is pulled. -/
def start (stream : TokenStream) : Except LexicalError State := do
  let (token, upcoming) ← stream.pull
  return ⟨[], token, upcoming, 0⟩

/-- The tokens pulled so far, the last one first. -/
def pulled (s : State) : List (Located Token) :=
  s.lookahead :: s.consumed

/-- The number of tokens that are not yet consumed, without the end of the input. -/
def unread (s : State) : Nat :=
  s.upcoming.tokens.length + if s.lookahead.value = .endOfInput then 0 else 1

/-- A state in which less is unread than in `s`. -/
abbrev Progress (s : State) : Type :=
  { t : State // t.unread < s.unread }

/-- Progress on progress. -/
def Progress.extend {s : State} (t : s.Progress) (u : t.val.Progress) : s.Progress :=
  ⟨u.val, Nat.lt_trans u.property t.property⟩

/-- Fail here with an error. -/
def abort (s : State) (error : EvaluationError) : Abort :=
  ⟨error, s.pulled⟩

/-- Fail because of the lookahead. -/
def refuse (s : State) (fault : SyntaxFault) : Abort :=
  s.abort ⟨.syntactic fault, s.lookahead.offset⟩

/-- Consume the lookahead, whatever it is, and pull the next token. -/
def advance (s : State) : Except Abort State :=
  match s.upcoming.pull with
  | .error error => .error (s.abort (error.map .lexical))
  | .ok (token, upcoming) => .ok ⟨s.lookahead :: s.consumed, token, upcoming, s.depth⟩

/-- To consume a token other than the end of the input is progress. -/
theorem unread_of_advance {s t : State} (h : s.advance = .ok t)
    (hs : s.lookahead.value ≠ .endOfInput) : t.unread < s.unread := by
  obtain ⟨consumed, lookahead, ⟨tokens, ending⟩, depth⟩ := s
  cases tokens with
  | cons token tokens =>
      cases h
      simp only [unread, if_neg hs, List.length_cons]
      split <;> omega
  | nil =>
      cases ending with
      | endOfInput offset => cases h; simp [unread, hs]
      | failure error => cases h

/-- Consume the lookahead, which has to be of the given kind, and pull the next token. -/
def consume (s : State) (kind : Token.Kind) (hkind : kind ≠ .endOfInput) :
    Except Abort s.Progress :=
  if h : s.lookahead.value.kind = kind then
    match hadvance : s.advance with
    | .error abort => .error abort
    | .ok t => .ok ⟨t, unread_of_advance hadvance fun hs => hkind (by rw [← h, hs]; rfl)⟩
  else
    .error (s.refuse (.unexpectedToken kind s.lookahead.value.kind))

/-- If no token can be pulled after the lookahead, it cannot be consumed. -/
theorem consume_of_error {s : State} {kind : Token.Kind} {hkind : kind ≠ .endOfInput}
    {abort : Abort} (h : s.lookahead.value.kind = kind) (hadvance : s.advance = .error abort) :
    s.consume kind hkind = .error abort := by
  unfold consume
  rw [dif_pos h]
  split
  · rename_i heq
    cases heq.symm.trans hadvance
    rfl
  · rename_i heq
    cases heq.symm.trans hadvance

/-- A lookahead of the right kind is consumed by advancing. -/
theorem consume_of_ok {s t : State} {kind : Token.Kind} {hkind : kind ≠ .endOfInput}
    (h : s.lookahead.value.kind = kind) (hadvance : s.advance = .ok t) :
    ∃ ht : t.unread < s.unread, s.consume kind hkind = .ok ⟨t, ht⟩ := by
  refine ⟨unread_of_advance hadvance fun hs => hkind (by rw [← h, hs]; rfl), ?_⟩
  unfold consume
  rw [dif_pos h]
  split
  · rename_i heq
    cases heq.symm.trans hadvance
  · rename_i heq
    cases heq.symm.trans hadvance
    rfl

/-- One more group is open. -/
def enter (s : State) : State :=
  { s with depth := s.depth + 1 }

/-- One group fewer is open. -/
def leave (s : State) : State :=
  { s with depth := s.depth - 1 }

/-- Carry out an operation; if it fails, the evaluation fails here. -/
def compute (s : State) (op : Operator) (left right : Int) (offset : Nat) : Except Abort Int :=
  match op.apply left right offset with
  | .ok value => .ok value
  | .error error => .error (s.abort (error.map .runtime))

end State

end Calculator.Evaluation
