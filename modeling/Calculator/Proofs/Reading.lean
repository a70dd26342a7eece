import Mathlib.Tactic.Common
import Calculator.Evaluation
import Calculator.Proofs.Outline
import Calculator.Proofs.TokenStream

/-!
# How far the machine reads

A run that fails breaks off somewhere.  This file says where that can be and which tokens have been
pulled by then, so that a law about errors has to be shown for one step only.

* **One step**: `settle_eq_error_iff`, `Configuration.want_eq_error` and
  `Configuration.hold_eq_error` say all the ways in which a token can be refused.  The end of the
  input is refused like a token, `Configuration.take_of_finish`.
* **Reading on**: `Configuration.advance` takes tokens one after the other.  What has been read has
  an outline, `Configuration.exists_outline`, and what comes after it decides the outcome,
  `Configuration.outcome_append`.
* **Breaking off**: `Configuration.BreaksOff` tells the three places where a run can fail, and
  `Configuration.course` follows a run and keeps what it pulls.  `Configuration.breaksOff_of_course`
  finds the place.
-/

namespace Calculator.Machine

/-! ## How a step fails -/

/-- An operation that waits fails as the operator does when it is applied. -/
lemma settle_eq_error_iff {pending? : Option Pending} {right : Int} {error : EvaluationError} :
    settle pending? right = .error error ↔ ∃ pending, pending? = some pending ∧ ∃ failure,
      pending.op.apply pending.left right pending.offset = .error failure
        ∧ failure.map .runtime = error := by
  cases pending? with
  | none => simp
  | some pending => simp [settle_some, mapError_eq_error_iff]

namespace Configuration

/-- Where an operand is wanted, a parenthesis can open one group too many, and all other tokens but
a number are out of order. -/
lemma want_eq_error {limit : Nat} {top : Frame} {outer : List Frame} {token : Located Token}
    {error : EvaluationError} (h : want limit top outer token = .error error) :
    (token.value = .leftParen ∧ limit ≤ outer.length
        ∧ error = ⟨.runtime (.nestingTooDeep limit), token.offset⟩)
      ∨ ((∀ value, token.value ≠ .number value) ∧ token.value ≠ .leftParen
        ∧ error = ⟨.syntactic (.expectedOperand token.value.kind), token.offset⟩) := by
  rw [want] at h
  split at h
  · cases h
  · rename_i htoken
    split at h
    · rename_i hfull
      cases h
      exact .inl ⟨htoken, hfull, rfl⟩
    · cases h
  · rename_i hnumber hparen
    cases h
    exact .inr ⟨hnumber, hparen, rfl⟩

/-- Where an operand is held, an operation that waits for it can fail; if none does, the token does
not go on with the expression and does not end it either. -/
lemma hold_eq_error {top : Frame} {outer : List Frame} {operand : Int} {token : Located Token}
    {error : EvaluationError} (h : hold top outer operand token = .error error) :
    settle top.multiplicative? operand = .error error ∨
      ∃ term, settle top.multiplicative? operand = .ok term
        ∧ token.value.operatorAt? .multiplicative = none
        ∧ (settle top.additive? term = .error error ∨
          ∃ value, settle top.additive? term = .ok value
            ∧ token.value.operatorAt? .additive = none
            ∧ ((outer = []
                ∧ error = ⟨.syntactic (.unexpectedTrailingInput token.value.kind), token.offset⟩)
              ∨ (outer ≠ [] ∧ token.value ≠ .rightParen
                ∧ error
                  = ⟨.syntactic (.expectedClosingParen token.value.kind), token.offset⟩))) := by
  simp only [hold, factorOperator?_eq, termOperator?_eq] at h
  rcases bind_eq_error_iff.1 h with h | ⟨term, hterm, h⟩
  · exact .inl h
  refine .inr ⟨term, hterm, ?_⟩
  split at h
  · cases h
  · rename_i hmul
    refine ⟨hmul, ?_⟩
    rcases bind_eq_error_iff.1 h with h | ⟨value, hvalue, h⟩
    · exact .inl h
    refine .inr ⟨value, hvalue, ?_⟩
    split at h
    · cases h
    · rename_i hadd
      refine ⟨hadd, ?_⟩
      cases outer with
      | nil =>
          cases h
          exact .inl ⟨rfl, rfl⟩
      | cons below rest =>
          dsimp only at h
          split at h
          · cases h
          · rename_i htoken
            cases h
            exact .inr ⟨List.cons_ne_nil _ _, htoken, rfl⟩

/-- **The end of the input is refused like a token.** -/
lemma take_of_finish {c : Configuration} {offset : Nat} {error : EvaluationError}
    (h : c.finish offset = .error error) (limit : Nat) :
    c.take limit ⟨.endOfInput, offset⟩ = .error error := by
  rcases c with ⟨top, outer, _ | operand⟩
  · cases h
    rfl
  · rcases bind_eq_error_iff.1 h with h | ⟨term, hterm, h⟩
    · simp only [take, hold, h, error_bind]
    rcases bind_eq_error_iff.1 h with h | ⟨value, hvalue, h⟩
    · simp only [take, hold, hterm, ok_bind, h]
      rfl
    cases outer with
    | nil => cases h
    | cons below rest =>
        cases h
        simp only [take, hold, hterm, hvalue, ok_bind]
        rfl

/-! ## Reading on -/

/-- Take tokens one after the other. -/
def advance (limit : Nat) (c : Configuration) (tokens : List (Located Token)) :
    Except EvaluationError Configuration :=
  tokens.foldlM (take limit) c

variable {limit : Nat}

lemma advance_cons {c c' : Configuration} {token : Located Token} {tokens : List (Located Token)} :
    c.advance limit (token :: tokens) = .ok c'
      ↔ ∃ next, c.take limit token = .ok next ∧ next.advance limit tokens = .ok c' := by
  rw [advance, List.foldlM_cons, bind_eq_ok_iff]
  rfl

lemma advance_append {c c' : Configuration} {before after : List (Located Token)} :
    c.advance limit (before ++ after) = .ok c'
      ↔ ∃ middle, c.advance limit before = .ok middle ∧ middle.advance limit after = .ok c' := by
  rw [advance, List.foldlM_append, bind_eq_ok_iff]
  rfl

/-- What is made of a stream, from its first tokens on. -/
lemma outcome_append_eq (c : Configuration) (before after : List (Located Token))
    (ending : Ending) :
    c.outcome limit ⟨before ++ after, ending⟩
      = c.advance limit before >>= fun c' => c'.outcome limit ⟨after, ending⟩ := by
  induction before generalizing c with
  | nil => rfl
  | cons token before ih =>
      rw [List.cons_append, outcome_cons, advance, List.foldlM_cons, bind_assoc]
      exact congrArg _ (funext fun next => ih next)

/-- The outcome is decided where the tokens end. -/
lemma outcome_append {c c' : Configuration} {before : List (Located Token)}
    (h : c.advance limit before = .ok c') (after : List (Located Token)) (ending : Ending) :
    c.outcome limit ⟨before ++ after, ending⟩ = c'.outcome limit ⟨after, ending⟩ := by
  rw [outcome_append_eq, h, ok_bind]

/-- As far as the machine comes, an outline of what it has read comes too. -/
lemma exists_outline {o : Outline} {c : Configuration} {tokens : List (Located Token)}
    (h : o.configuration.advance limit tokens = .ok c) :
    ∃ o' : Outline, o'.configuration = c ∧ o'.tokens = o.tokens ++ tokens := by
  induction tokens generalizing o with
  | nil =>
      cases h
      exact ⟨o, rfl, (List.append_nil _).symm⟩
  | cons token tokens ih =>
      obtain ⟨_, htake, hnext⟩ := advance_cons.1 h
      obtain ⟨next, rfl, hread, -⟩ := Outline.exists_take htake
      obtain ⟨o', hc, ho'⟩ := ih hnext
      exact ⟨o', hc, by rw [ho', hread, List.append_assoc, List.singleton_append]⟩

/-! ## Breaking off -/

/-- **Where a run can fail**: at a token that is refused, at the end of the input, or at a lexeme
that is no token.  The last argument lists the tokens pulled until then. -/
inductive BreaksOff (limit : Nat) (c : Configuration) (stream : TokenStream)
    (error : EvaluationError) : List (Located Token) → Prop where
  | token {before after : List (Located Token)} {token : Located Token} {c' : Configuration}
      (tokens_eq : stream.tokens = before ++ token :: after)
      (reads : c.advance limit before = .ok c') (fails : c'.take limit token = .error error) :
      BreaksOff limit c stream error (before ++ [token])
  | endOfInput {offset : Nat} {c' : Configuration} (ending_eq : stream.ending = .endOfInput offset)
      (reads : c.advance limit stream.tokens = .ok c') (fails : c'.finish offset = .error error) :
      BreaksOff limit c stream error (stream.tokens ++ [⟨.endOfInput, offset⟩])
  | failure {lexical : LexicalError} {c' : Configuration}
      (ending_eq : stream.ending = .failure lexical)
      (reads : c.advance limit stream.tokens = .ok c') (fails : lexical.map .lexical = error) :
      BreaksOff limit c stream error stream.tokens

/-- One token more in front. -/
lemma BreaksOff.cons {c next : Configuration} {token : Located Token}
    {tokens : List (Located Token)} {ending : Ending} {error : EvaluationError}
    {pulled : List (Located Token)} (htake : c.take limit token = .ok next)
    (h : BreaksOff limit next ⟨tokens, ending⟩ error pulled) :
    BreaksOff limit c ⟨token :: tokens, ending⟩ error (token :: pulled) := by
  cases h with
  | token tokens_eq reads fails =>
      obtain rfl : tokens = _ := tokens_eq
      exact .token rfl (advance_cons.2 ⟨next, htake, reads⟩) fails
  | endOfInput ending_eq reads fails =>
      exact .endOfInput ending_eq (advance_cons.2 ⟨next, htake, reads⟩) fails
  | failure ending_eq reads fails =>
      exact .failure ending_eq (advance_cons.2 ⟨next, htake, reads⟩) fails

/-- What a configuration makes of a token stream, and the tokens that have been pulled when that is
known.  `seen` are those pulled before, the last one first. -/
def course (limit : Nat) (c : Configuration) (seen : List (Located Token)) :
    List (Located Token) → Ending → Evaluation.Outcome
  | token :: tokens, ending =>
    match c.take limit token with
    | .ok next => next.course limit (token :: seen) tokens ending
    | .error error => ⟨.error error, (token :: seen).reverse⟩
  | [], .endOfInput offset => ⟨c.finish offset, (⟨.endOfInput, offset⟩ :: seen).reverse⟩
  | [], .failure error => ⟨.error (error.map .lexical), seen.reverse⟩

/-- To keep what is pulled does not change the result. -/
lemma result_course (limit : Nat) (c : Configuration) (seen : List (Located Token))
    (stream : TokenStream) :
    (c.course limit seen stream.tokens stream.ending).result = c.outcome limit stream := by
  rcases stream with ⟨tokens, ending⟩
  induction tokens generalizing c seen with
  | nil => cases ending <;> rfl
  | cons token tokens ih =>
      simp only [outcome_cons, course] at ih ⊢
      cases c.take limit token with
      | ok next => exact ih next (token :: seen)
      | error error => rfl

/-- A token that is refused is the last one pulled. -/
lemma course_push_of_error {c : Configuration} {token : Located Token}
    (ht : token.value ≠ .endOfInput) {error : EvaluationError}
    (htake : c.take limit token = .error error) (seen : List (Located Token))
    (stream : TokenStream) :
    c.course limit seen (stream.push token).tokens (stream.push token).ending
      = ⟨.error error, (token :: seen).reverse⟩ := by
  rw [TokenStream.push_of_ne ht, course, htake]

/-- After a token that is taken the run goes on. -/
lemma course_push_of_ok {c next : Configuration} {token : Located Token}
    (ht : token.value ≠ .endOfInput) (htake : c.take limit token = .ok next)
    (seen : List (Located Token)) (stream : TokenStream) :
    c.course limit seen (stream.push token).tokens (stream.push token).ending
      = next.course limit (token :: seen) stream.tokens stream.ending := by
  rw [TokenStream.push_of_ne ht, course, htake]

/-- The end of the input is the last token pulled. -/
lemma course_push_of_endOfInput {c : Configuration} {token : Located Token}
    (ht : token.value = .endOfInput) (seen : List (Located Token)) (stream : TokenStream) :
    c.course limit seen (stream.push token).tokens (stream.push token).ending
      = ⟨c.finish token.offset, (token :: seen).reverse⟩ := by
  rw [TokenStream.push_of_eq ht, course, ← ht]

/-- What waits for an operand is carried out when the token after the operand has been pulled. -/
lemma course_await {level : Level} {top : Frame} (hopens : top.Opens level.phrase)
    {token : Located Token} {stream : TokenStream} (hends : Ends level.phrase (stream.push token))
    (limit : Nat) (pending : Pending) (outer : List Frame) (right : Int)
    (seen : List (Located Token)) :
    course limit ⟨top.await level pending, outer, some right⟩ seen (stream.push token).tokens
        (stream.push token).ending
      = match settle (some pending) right with
        | .ok value => course limit ⟨top, outer, some value⟩ seen (stream.push token).tokens
            (stream.push token).ending
        | .error error => ⟨.error error, (token :: seen).reverse⟩ := by
  by_cases ht : token.value = .endOfInput
  · simp only [course_push_of_endOfInput ht, finish_await hopens]
    cases settle (some pending) right <;> rfl
  · have htake := take_await hopens (TokenStream.push_of_ne ht stream ▸ hends) limit pending outer
      right
    cases hsettle : settle (some pending) right with
    | ok value =>
        rw [hsettle, ok_bind] at htake
        simp only [TokenStream.push_of_ne ht, course, htake]
    | error error =>
        rw [hsettle, error_bind] at htake
        exact course_push_of_error ht htake seen stream

/-- **A run that fails breaks off at one of these places**, with these tokens pulled. -/
theorem breaksOff_of_course {c : Configuration} {seen : List (Located Token)}
    {stream : TokenStream} {error : EvaluationError}
    (h : (c.course limit seen stream.tokens stream.ending).result = .error error) :
    ∃ read, (c.course limit seen stream.tokens stream.ending).pulled = seen.reverse ++ read
      ∧ BreaksOff limit c stream error read := by
  rcases stream with ⟨tokens, ending⟩
  induction tokens generalizing c seen with
  | nil =>
      cases ending with
      | endOfInput offset => exact ⟨_, List.reverse_cons, .endOfInput rfl rfl h⟩
      | failure lexical =>
          exact ⟨[], (List.append_nil _).symm, .failure rfl rfl (Except.error.inj h)⟩
  | cons token tokens ih =>
      simp only [course] at ih h ⊢
      cases htake : c.take limit token with
      | error refusal =>
          rw [htake] at h
          cases h
          have hnone : c.advance limit [] = .ok c := rfl
          exact ⟨[token], List.reverse_cons, .token (List.nil_append _).symm hnone htake⟩
      | ok next =>
          rw [htake] at h
          obtain ⟨read, hread, hbreaks⟩ := ih h
          exact ⟨token :: read, by simp [hread], hbreaks.cons htake⟩

/-- Hence the result alone tells that there is such a place. -/
lemma exists_breaksOff {c : Configuration} {stream : TokenStream} {error : EvaluationError}
    (h : c.outcome limit stream = .error error) :
    ∃ pulled, BreaksOff limit c stream error pulled := by
  rw [← result_course limit c [] stream] at h
  obtain ⟨read, -, hbreaks⟩ := breaksOff_of_course h
  exact ⟨read, hbreaks⟩

end Configuration

end Calculator.Machine
