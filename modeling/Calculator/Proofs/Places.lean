import Mathlib.Tactic.Common
import Calculator.Proofs.Values

/-!
# Where errors stand

An error names a place.  If it is not lexical, a token stands there, and it is one that the error
could be about (`EvaluationError.FoundAt`): the operator of the operation that failed, the
parenthesis that opened one group too many, the token that is out of order.

* **One step**, `Outline.exists_foundAt_of_take`: an operation that fails was waiting, so its
  operator is among the tokens that the outline has read; all other errors are at the token taken.
* **A whole run**, `Configuration.BreaksOff.exists_foundAt`: the error stands at a token that was
  pulled, or it is the lexical error that ends the stream.

Since all tokens stand before a lexical error of the input, evaluating and tokenizing agree about
these: `evaluateWithin_lexical`.
-/

namespace Calculator

/-- A fault of this kind can be found at such a token. -/
def Fault.Concerns : Fault → Token → Prop
  | .lexical _, _ => False
  | .syntactic fault, token => token.kind = fault.found
  | .runtime .divisionByZero, token => token = .operator .div
  | .runtime .overflow, token => ∃ op, token = .operator op
  | .runtime (.nestingTooDeep _), token => token = .leftParen

/-- The error is at the token and can be about it. -/
def EvaluationError.FoundAt (error : EvaluationError) (token : Located Token) : Prop :=
  token.offset = error.offset ∧ error.value.Concerns token.value

namespace Machine

/-- The error of an operation that waits is found at its operator. -/
lemma foundAt_of_settle {pending? : Option Pending} {right : Int} {error : EvaluationError}
    (h : settle pending? right = .error error) :
    ∃ pending, pending? = some pending
      ∧ error.FoundAt ⟨.operator pending.op, pending.offset⟩ := by
  obtain ⟨pending, hpending, failure, happly, rfl⟩ := settle_eq_error_iff.1 h
  refine ⟨pending, hpending, ?_⟩
  rcases Operator.apply_eq_error_iff.1 happly with ⟨hdiv, -, rfl⟩ | ⟨_, -, -, rfl⟩
  · exact ⟨rfl, congrArg Token.operator hdiv⟩
  · exact ⟨rfl, pending.op, rfl⟩

namespace Outline

/-- The operator of an operation that waits has been read. -/
lemma mem_tokens_of_waits {o : Outline} {pending : Pending}
    (h : o.configuration.top.multiplicative? = some pending
      ∨ o.configuration.top.additive? = some pending) :
    ⟨.operator pending.op, pending.offset⟩ ∈ o.tokens := by
  rcases h with h | h
  · obtain ⟨started, hstarted, rfl⟩ := Option.map_eq_some_iff.1 h
    simp [tokens, Layer.tokens, hstarted, Started.pending]
  · obtain ⟨started, hstarted, rfl⟩ := Option.map_eq_some_iff.1 h
    simp [tokens, Layer.tokens, hstarted, Started.pending]

/-- If an operation that waits fails, the error is found at a token that has been read. -/
lemma exists_foundAt_of_settle {o : Outline} {right : Int} {error : EvaluationError}
    (h : settle o.configuration.top.multiplicative? right = .error error
      ∨ settle o.configuration.top.additive? right = .error error) :
    ∃ place ∈ o.tokens, error.FoundAt place := by
  rcases h with h | h
  · obtain ⟨pending, hpending, hfound⟩ := foundAt_of_settle h
    exact ⟨_, mem_tokens_of_waits (.inl hpending), hfound⟩
  · obtain ⟨pending, hpending, hfound⟩ := foundAt_of_settle h
    exact ⟨_, mem_tokens_of_waits (.inr hpending), hfound⟩

/-- **If a token is refused, the error is found at it or at an operator before it.** -/
lemma exists_foundAt_of_take {limit : Nat} {o : Outline} {token : Located Token}
    {error : EvaluationError} (h : o.configuration.take limit token = .error error) :
    ∃ place ∈ o.tokens ++ [token], error.FoundAt place := by
  have hpending : ∀ right, (settle o.configuration.top.multiplicative? right = .error error
      ∨ settle o.configuration.top.additive? right = .error error) →
        ∃ place ∈ o.tokens ++ [token], error.FoundAt place := by
    intro right hfails
    obtain ⟨place, hmem, hfound⟩ := exists_foundAt_of_settle hfails
    exact ⟨place, List.mem_append_left _ hmem, hfound⟩
  have htoken : error.FoundAt token → ∃ place ∈ o.tokens ++ [token], error.FoundAt place :=
    fun hfound => ⟨token, List.mem_append_right _ (List.mem_singleton_self _), hfound⟩
  rcases o with ⟨top, outer, _ | operand⟩
  · rcases Configuration.want_eq_error h with ⟨hparen, -, rfl⟩ | ⟨-, -, rfl⟩
    · exact htoken ⟨rfl, hparen⟩
    · exact htoken ⟨rfl, rfl⟩
  · rcases Configuration.hold_eq_error h with
      h | ⟨term, -, -, h | ⟨value, -, -, ⟨-, rfl⟩ | ⟨-, -, rfl⟩⟩⟩
    · exact hpending _ (.inl h)
    · exact hpending _ (.inr h)
    · exact htoken ⟨rfl, rfl⟩
    · exact htoken ⟨rfl, rfl⟩

end Outline

namespace Configuration

/-- **Where a run breaks off, the error is found at a token that was pulled**, unless it is the
lexical error at which the tokens end. -/
theorem BreaksOff.exists_foundAt {limit : Nat} {stream : TokenStream} {error : EvaluationError}
    {pulled : List (Located Token)} (h : BreaksOff limit initial stream error pulled) :
    (∃ place ∈ pulled, error.FoundAt place)
      ∨ ∃ lexical, stream.ending = .failure lexical ∧ lexical.map .lexical = error := by
  cases h with
  | token tokens_eq reads fails =>
      obtain ⟨o, rfl, hread⟩ := exists_outline (o := Outline.initial) reads
      have hfound := Outline.exists_foundAt_of_take fails
      rw [hread] at hfound
      exact .inl hfound
  | endOfInput ending_eq reads fails =>
      obtain ⟨o, rfl, hread⟩ := exists_outline (o := Outline.initial) reads
      have hfound := Outline.exists_foundAt_of_take (take_of_finish fails limit)
      rw [hread] at hfound
      exact .inl hfound
  | failure ending_eq reads fails => exact .inr ⟨_, ending_eq, fails⟩

/-- A lexical error is the one at which the tokens end. -/
lemma BreaksOff.ending_of_lexical {limit : Nat} {stream : TokenStream} {lexical : LexicalError}
    {pulled : List (Located Token)}
    (h : BreaksOff limit initial stream (lexical.map .lexical) pulled) :
    stream.ending = .failure lexical := by
  rcases h.exists_foundAt with ⟨place, -, -, hconcerns⟩ | ⟨⟨fault, offset⟩, hending, hlexical⟩
  · exact hconcerns.elim
  · rcases lexical with ⟨fault', offset'⟩
    cases hlexical
    exact hending

/-- Before a lexical error nothing but tokens of the stream is pulled. -/
lemma BreaksOff.subset_tokens {limit : Nat} {c : Configuration} {stream : TokenStream}
    {error : EvaluationError} {pulled : List (Located Token)} {lexical : LexicalError}
    (h : BreaksOff limit c stream error pulled) (hending : stream.ending = .failure lexical) :
    pulled ⊆ stream.tokens := by
  cases h with
  | token tokens_eq reads fails =>
      rw [tokens_eq]
      simp
  | endOfInput ending_eq reads fails => cases hending.symm.trans ending_eq
  | failure ending_eq reads fails => exact List.Subset.refl _

end Configuration

end Machine

/-- If the tokens end with a lexical error, the evaluation comes to it, unless something else is
wrong further to the front. -/
lemma evaluateWithin_of_tokenize_eq_error (maxDepth : Nat) {input : String} {error : LexicalError}
    (h : tokenize input = .error error) :
    evaluateWithin maxDepth input = .error (error.map .lexical)
      ∨ ∃ failure, evaluateWithin maxDepth input = .error failure
          ∧ ((∃ fault, failure.value = .syntactic fault) ∨ ∃ fault, failure.value = .runtime fault)
          ∧ failure.offset < error.offset := by
  have hending := ending_of_tokenize_eq_error h
  cases hresult : evaluateWithin maxDepth input with
  | ok value =>
      obtain ⟨tree, htokens, -⟩ := exists_tree_of_evaluateWithin hresult
      cases h.symm.trans htokens
  | error failure =>
      rw [evaluateWithin_eq_outcome] at hresult
      obtain ⟨pulled, hbreaks⟩ := Machine.Configuration.exists_breaksOff hresult
      rcases hbreaks.exists_foundAt with
        ⟨place, hmem, hplace, hconcerns⟩ | ⟨lexical, hlexical, rfl⟩
      · -- the error is found at a token, and all tokens stand before the lexical error
        refine .inr ⟨failure, rfl, ?_, ?_⟩
        · rcases failure with ⟨_ | fault | fault, offset⟩
          · exact hconcerns.elim
          · exact .inl ⟨fault, rfl⟩
          · exact .inr ⟨fault, rfl⟩
        · have hbefore := TokenStream.offset_lt_ending (TokenStream.offsets_ofString input) place
            (hbreaks.subset_tokens hending hmem)
          rwa [hending, hplace] at hbefore
      · cases hending.symm.trans hlexical
        exact .inl rfl

/-- **Evaluating and tokenizing agree about lexical errors.**  A lexical error of the evaluation is
that of the tokens.  If the tokens end with one, the evaluation has no value: it comes to the same
error, unless something else is wrong further to the front. -/
theorem evaluateWithin_lexical (maxDepth : Nat) (input : String) :
    (∀ error : LexicalError, evaluateWithin maxDepth input = .error (error.map .lexical) →
        tokenize input = .error error)
      ∧ ∀ error, tokenize input = .error error →
          evaluateWithin maxDepth input = .error (error.map .lexical)
          ∨ ∃ failure, evaluateWithin maxDepth input = .error failure
              ∧ ((∃ fault, failure.value = .syntactic fault)
                ∨ ∃ fault, failure.value = .runtime fault)
              ∧ failure.offset < error.offset := by
  refine ⟨fun error h => ?_, fun error => evaluateWithin_of_tokenize_eq_error maxDepth⟩
  rw [evaluateWithin_eq_outcome] at h
  obtain ⟨pulled, hbreaks⟩ := Machine.Configuration.exists_breaksOff h
  rw [tokenize_eq, TokenStream.collect, hbreaks.ending_of_lexical]

end Calculator
