import Mathlib.Tactic.Common
import Calculator.Proofs.Pulled
import Calculator.Proofs.Ranges

/-!
# Errors of arithmetic

If an evaluation fails in an operation, the operation is really there, whatever is wrong with the
rest of the input: the tokens around the operator are all of the two operands that it joins, and
these operands have values that cannot be combined.

The machine has read both operands when it breaks off, and `Machine.FailsBefore` finds them at the
end of what it has read.  Here they are found among the tokens of the input.
-/

namespace Calculator

namespace Machine

/-- **Where a run breaks off for no lexical error**, a token is refused after what has been read.
It is the next token of the stream, or the end of the input. -/
lemma Configuration.BreaksOff.exists_rest {limit : Nat} {c : Configuration}
    {stream : TokenStream} {error : EvaluationError} {pulled : List (Located Token)}
    (h : BreaksOff limit c stream error pulled)
    (hlexical : ∀ lexical : LexicalError, lexical.map .lexical ≠ error) :
    ∃ read next rest c', stream.tokens = read ++ rest ∧ (∀ token ∈ rest.head?, token = next)
      ∧ c.advance limit read = .ok c' ∧ c'.take limit next = .error error := by
  cases h with
  | @token before after token c' tokens_eq reads fails =>
      refine ⟨before, token, token :: after, c', tokens_eq, ?_, reads, fails⟩
      rintro _ ⟨⟩
      rfl
  | @endOfInput offset c' ending_eq reads fails =>
      exact ⟨stream.tokens, _, [], c', (List.append_nil _).symm, nofun, reads,
        take_of_finish fails limit⟩
  | failure ending_eq reads fails => exact absurd fails (hlexical _)

/-- The operands of the operation that fails are those that its operator joins, and what they come
to is what it cannot be applied to. -/
lemma FailsBefore.exists_operands {next : Located Token} {read : List (Located Token)}
    {operation : Operation} {failure : RuntimeError}
    (h : FailsBefore next read operation failure) :
    ∃ (op : Operator) (before : List (Located Token)) (left : Tree op.leftNotion)
      (right : Tree op.rightNotion) (l r : Int),
      read = before ++ (left.tokens ++ ⟨.operator op, failure.offset⟩ :: right.tokens)
        ∧ LeftBegins op before
        ∧ (op = .add ∨ op = .sub → next.value ≠ .operator .mul ∧ next.value ≠ .operator .div)
        ∧ left.Yields l ∧ right.Yields r ∧ op.apply l r failure.offset = .error failure := by
  rcases operation with @⟨leftNotion, rightNotion, left, op, offset, right⟩
  obtain ⟨⟨l, r, hl, hr, hfails⟩, hleft, hright, ⟨before, hbefore, hbegins⟩, hends⟩ := h
  have happly : op.apply l r offset = .error failure := Operator.apply_eq_error_iff.2 hfails
  obtain rfl : offset = failure.offset := by
    rcases hfails with ⟨-, -, rfl⟩ | ⟨_, -, -, rfl⟩ <;> rfl
  obtain rfl : leftNotion = op.leftNotion := hleft
  obtain rfl : rightNotion = op.rightNotion := hright
  exact ⟨op, before, left, right, l, r, hbefore, hbegins, hends, hl, hr, happly⟩

end Machine

/-- **Errors of arithmetic are genuine.**  If an evaluation divides by zero or leaves the range,
then at the offset of the error stands an operator between two operands, whatever comes further on.
They are phrases of the grammar, a term and a factor for `*` and `/`, an expression and a term for
`+` and `-`, and they are all that it joins: on the left back to where such a phrase can begin, on
the right as far as the grammar goes on.  Both have a value in range, and to these the operator
cannot be applied. -/
theorem evaluateWithin_operation {maxDepth : Nat} {input : String} {fault : RuntimeFault}
    {offset : Nat} (hfault : fault = .divisionByZero ∨ fault = .overflow)
    (h : evaluateWithin maxDepth input = .error ⟨.runtime fault, offset⟩) :
    ∃ (op : Operator) (before rest : List (Located Token)) (left : Tree op.leftNotion)
      (right : Tree op.rightNotion) (l r : Int),
      (TokenStream.ofString input).tokens
          = before ++ left.tokens ++ ⟨.operator op, offset⟩ :: (right.tokens ++ rest)
        ∧ (∀ token ∈ before.getLast?, token.value = .leftParen
          ∨ (op = .mul ∨ op = .div)
            ∧ (token.value = .operator .add ∨ token.value = .operator .sub))
        ∧ (op = .add ∨ op = .sub → ∀ token ∈ rest.head?,
          token.value ≠ .operator .mul ∧ token.value ≠ .operator .div)
        ∧ left.evaluate = .ok l ∧ right.evaluate = .ok r ∧ InRange l ∧ InRange r
        ∧ op.apply l r offset = .error ⟨fault, offset⟩ := by
  have hreadable := TokenStream.readable_ofString input
  rw [evaluateWithin_eq_outcome] at h
  generalize TokenStream.ofString input = stream at *
  obtain ⟨pulled, hbreaks⟩ := Machine.Configuration.exists_breaksOff h
  obtain ⟨read, next, rest, c, htokens, hnext, hreads, hfails⟩ := hbreaks.exists_rest nofun
  -- the configuration that fails is the outline of what has been read, and the operation is at the
  -- end of this
  obtain ⟨o, rfl, hread⟩ := Machine.Configuration.exists_outline (o := .initial) hreads
  have hnesting : ∀ l, fault ≠ .nestingTooDeep l := by
    rintro l rfl
    rcases hfault with hfault | hfault <;> cases hfault
  obtain ⟨operation, hoperation⟩ :=
    @Machine.Outline.exists_failsBefore maxDepth o next ⟨fault, offset⟩ hfails hnesting
  obtain ⟨op, before, left, right, l, r, hoperands, hbegins, hends, hl, hr, happly⟩ :=
    hoperation.exists_operands
  have hinput : o.tokens = read := hread
  have hall : stream.tokens
      = before ++ left.tokens ++ ⟨.operator op, offset⟩ :: (right.tokens ++ rest) := by
    rw [htokens, ← hinput, hoperands]
    simp
  -- the operands are made of tokens of the input, so their values are in range
  rw [hall] at hreadable
  simp only [List.forall_mem_append, List.forall_mem_cons] at hreadable
  obtain ⟨⟨-, hleft⟩, -, hright, -⟩ := hreadable
  refine ⟨op, before, rest, left, right, l, r, hall, hbegins, ?_, Tree.evaluate_eq_ok_iff.2 hl,
    Tree.evaluate_eq_ok_iff.2 hr, left.inRange_of_yields hleft hl,
    right.inRange_of_yields hright hr, happly⟩
  intro hop token hmem
  rw [hnext token hmem]
  exact hends hop

/-- In `(5-8*2/(2-2)+@` all of `8*2` is divided by zero, though the group is never closed and a
character is unknown. -/
theorem evaluateWithin_operation_product :
    evaluateWithin 2 "(5-8*2/(2-2)+@" = .error ⟨.runtime .divisionByZero, 6⟩
      ∧ ∃ (op : Operator) (left : Tree op.leftNotion) (right : Tree op.rightNotion) (l r : Int),
          (left.tokens ++ ⟨.operator op, 6⟩ :: right.tokens)
              <:+: (TokenStream.ofString "(5-8*2/(2-2)+@").tokens
            ∧ left.evaluate = .ok l ∧ right.evaluate = .ok r
            ∧ op.apply l r 6 = .error ⟨.divisionByZero, 6⟩ := by
  have hstream : TokenStream.ofString "(5-8*2/(2-2)+@"
      = ⟨[⟨.leftParen, 0⟩, ⟨.number 5, 1⟩, ⟨.operator .sub, 2⟩, ⟨.number 8, 3⟩, ⟨.operator .mul, 4⟩,
          ⟨.number 2, 5⟩, ⟨.operator .div, 6⟩, ⟨.leftParen, 7⟩, ⟨.number 2, 8⟩, ⟨.operator .sub, 9⟩,
          ⟨.number 2, 10⟩, ⟨.rightParen, 11⟩, ⟨.operator .add, 12⟩],
        .failure ⟨.unrecognizedCharacter '@', 13⟩⟩ := by decide +kernel
  have h : evaluateWithin 2 "(5-8*2/(2-2)+@" = .error ⟨.runtime .divisionByZero, 6⟩ := by
    rw [evaluateWithin_eq_outcome, hstream]
    rfl
  obtain ⟨op, before, rest, left, right, l, r, htokens, -, -, hl, hr, -, -, happly⟩ :=
    evaluateWithin_operation (.inl rfl) h
  refine ⟨h, op, left, right, l, r, ⟨before, rest, ?_⟩, hl, hr, happly⟩
  rw [htokens]
  simp

end Calculator
