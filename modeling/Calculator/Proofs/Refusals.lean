import Mathlib.Tactic.Common
import Calculator.Proofs.ViablePrefix

/-!
# Which fault is in the order of the tokens

There is little that a token can be refused for, and which of it is the case can be told from the
tokens before it.  The machine shows why: `Configuration.Refuses` says what it answers by what it
waits for, and two things are kept in step with the tokens that have been read.

* **The last token** says whether an operand is wanted, `Configuration.operand?_eq_none_iff`.
* **The balance** of the parentheses says how many groups are open,
  `Configuration.balance_of_advance`.

No rule ever expects one particular kind of token where another one comes: all of them look at the
token before they consume it, `Evaluation.rule_ne_unexpectedToken`.
-/

namespace Calculator

namespace Token

/-- After this token an operand has to come. -/
def AwaitsOperand : Token → Prop
  | .operator _ => True
  | .leftParen => True
  | _ => False

/-- What is no operator at either level is a number, a parenthesis or the end of the input. -/
lemma kind_of_operatorAt?_eq_none {token : Token}
    (hmul : token.operatorAt? .multiplicative = none) (hadd : token.operatorAt? .additive = none) :
    token.kind = .number ∨ token.kind = .leftParen ∨ token.kind = .rightParen
      ∨ token.kind = .endOfInput := by
  cases token with
  | number n => exact .inl rfl
  | leftParen => exact .inr (.inl rfl)
  | rightParen => exact .inr (.inr (.inl rfl))
  | endOfInput => exact .inr (.inr (.inr rfl))
  | operator op => cases op <;> simp [operatorAt?, operator?, Operator.level] at hmul hadd

end Token

namespace Machine.Configuration

variable {limit : Nat} {fault : SyntaxFault} {offset : Nat}

/-! ## What has been read last -/

/-- **What a step leaves wanting** is decided by the token alone. -/
lemma operand?_of_take {c c' : Configuration} {token : Located Token}
    (h : c.take limit token = .ok c') : c'.operand? = none ↔ token.value.AwaitsOperand := by
  rcases c with ⟨top, outer, _ | operand⟩
  · rcases want_eq_ok h with ⟨value, htoken, rfl⟩ | ⟨htoken, -, rfl⟩
    · simp [htoken, Token.AwaitsOperand]
    · simp [htoken, Token.AwaitsOperand]
  · obtain ⟨term, -, h⟩ := hold_eq_ok h
    rcases h with ⟨op, hop, rfl⟩ | ⟨value, -, ⟨op, hop, rfl⟩ | ⟨below, rest, -, htoken, rfl⟩⟩
    · simp [(Token.operatorAt?_eq_some_iff.1 hop).1, Token.AwaitsOperand]
    · simp [(Token.operatorAt?_eq_some_iff.1 hop).1, Token.AwaitsOperand]
    · simp [htoken, Token.AwaitsOperand]

/-- **An operand is wanted** at the beginning, and after an operator or an opening parenthesis. -/
lemma operand?_eq_none_iff {c : Configuration} {tokens : List (Located Token)}
    (h : initial.advance limit tokens = .ok c) :
    c.operand? = none ↔ ∀ last ∈ tokens.getLast?, last.value.AwaitsOperand := by
  rcases List.eq_nil_or_concat tokens with rfl | ⟨before, last, rfl⟩
  · cases h
    simp [initial]
  · rw [List.concat_eq_append] at h ⊢
    obtain ⟨middle, -, hlast⟩ := advance_append.1 h
    obtain ⟨next, htake, hnext⟩ := advance_cons.1 hlast
    cases hnext
    simpa using operand?_of_take htake

/-! ## What the machine answers -/

/-- **What a token can be refused for.**  Where an operand is wanted, that none comes.  Where one is
held, that a group does not close, or, with no group open, that the input goes on. -/
inductive Refuses (c : Configuration) : SyntaxFault → Prop where
  | operand (found : Token.Kind) (wants : c.operand? = none) : Refuses c (.expectedOperand found)
  | closing (found : Token.Kind) (holds : c.operand? ≠ none) (opened : 0 < c.outer.length)
      (found_eq : found = .number ∨ found = .leftParen ∨ found = .endOfInput) :
      Refuses c (.expectedClosingParen found)
  | trailing (found : Token.Kind) (holds : c.operand? ≠ none) (closed : c.outer.length = 0)
      (found_eq : found = .number ∨ found = .leftParen ∨ found = .rightParen) :
      Refuses c (.unexpectedTrailingInput found)

lemma refuses_of_take {c : Configuration} {token : Located Token}
    (htoken : token.value ≠ .endOfInput)
    (h : c.take limit token = .error ⟨.syntactic fault, offset⟩) : c.Refuses fault := by
  rcases c with ⟨top, outer, _ | operand⟩
  · rcases want_eq_error h with ⟨-, -, herror⟩ | ⟨-, -, herror⟩
    · cases herror
    · cases herror
      exact .operand _ rfl
  · rcases hold_eq_error h with
      h | ⟨term, -, hmul, h | ⟨value, -, hadd, ⟨houter, herror⟩ | ⟨houter, hparen, herror⟩⟩⟩
    · exact absurd h settle_ne_syntactic
    · exact absurd h settle_ne_syntactic
    · cases herror
      have hkind := Token.kind_of_operatorAt?_eq_none hmul hadd
      rw [Token.kind_eq_endOfInput_iff] at hkind
      exact .trailing _ (Option.some_ne_none _) (List.length_eq_zero_iff.2 houter) (by tauto)
    · cases herror
      have hkind := Token.kind_of_operatorAt?_eq_none hmul hadd
      have hclosing : token.value.kind ≠ .rightParen := by
        cases hvalue : token.value <;> simp_all [Token.kind]
      exact .closing _ (Option.some_ne_none _) (List.length_pos_iff.2 houter) (by tauto)

lemma refuses_of_finish {c : Configuration} {offset' : Nat}
    (h : c.finish offset' = .error ⟨.syntactic fault, offset⟩) : c.Refuses fault := by
  rcases c with ⟨top, outer, _ | operand⟩
  · cases h
    exact .operand _ rfl
  · rcases bind_eq_error_iff.1 h with h | ⟨term, -, h⟩
    · exact absurd h settle_ne_syntactic
    rcases bind_eq_error_iff.1 h with h | ⟨value, -, h⟩
    · exact absurd h settle_ne_syntactic
    cases outer with
    | nil => cases h
    | cons below outer =>
        cases h
        exact .closing _ (Option.some_ne_none _) (Nat.succ_pos _) (.inr (.inr rfl))

/-- **A run that stops for the order of the tokens** has read the tokens before the error, and then
refuses. -/
lemma exists_refuses {c : Configuration} {stream : TokenStream} (hplain : stream.Plain)
    (h : c.outcome limit stream = .error ⟨.syntactic fault, offset⟩) :
    ∃ before c', c.advance limit before = .ok c' ∧ c'.Refuses fault
      ∧ ((∃ token after, stream.tokens = before ++ token :: after ∧ token.offset = offset)
        ∨ (stream.tokens = before ∧ stream.ending.offset = offset)) := by
  rcases exists_advance_of_syntactic h with
    ⟨before, token, after, c', htokens, hreads, hfails⟩ | ⟨end', c', hending, hreads, hfails⟩
  · have htoken : token.value ≠ .endOfInput :=
      hplain token (htokens ▸ List.mem_append_right _ List.mem_cons_self)
    exact ⟨before, c', hreads, refuses_of_take htoken hfails,
      .inl ⟨token, after, htokens, (take_eq_syntactic hfails).1⟩⟩
  · obtain ⟨rfl, -⟩ := finish_eq_syntactic hfails
    exact ⟨stream.tokens, c', hreads, refuses_of_finish hfails, .inr ⟨rfl, by rw [hending]; rfl⟩⟩

/-- From the beginning of a stream these are the tokens before the offset. -/
lemma exists_refuses_before {stream : TokenStream} (hplain : stream.Plain)
    (hoffsets : stream.offsets.Pairwise (· < ·))
    (h : initial.outcome limit stream = .error ⟨.syntactic fault, offset⟩) :
    ∃ c, initial.advance limit (stream.before offset) = .ok c ∧ c.Refuses fault := by
  obtain ⟨before, c, hreads, hrefuses, ⟨token, after, htokens, rfl⟩ | ⟨rfl, rfl⟩⟩ :=
    exists_refuses hplain h
  · rw [TokenStream.before_of_append hoffsets htokens]
    exact ⟨c, hreads, hrefuses⟩
  · rw [TokenStream.before_ending hoffsets]
    exact ⟨c, hreads, hrefuses⟩

end Machine.Configuration

/-! ## What the rules never answer -/

namespace Evaluation

open Machine

lemma State.plain_ahead {s : State} (h : s.upcoming.Plain) : s.ahead.Plain := by
  by_cases hs : s.lookahead.value = .endOfInput
  · rw [ahead, TokenStream.push_of_eq hs]
    exact List.forall_mem_nil _
  · rw [ahead, TokenStream.push_of_ne hs]
    exact List.forall_mem_cons.2 ⟨hs, h⟩

/-- **A token is consumed only where it is of the kind expected.**  The rules do not fail for
another kind, in whatever state they are entered. -/
theorem rule_ne_unexpectedToken {limit : Nat} {notion : Notion} {s : State}
    (hplain : s.upcoming.Plain) {abort : Abort} (h : rule limit notion s = .error abort)
    (expected found : Token.Kind) (offset : Nat) :
    abort.error ≠ ⟨.syntactic (.unexpectedToken expected found), offset⟩ := by
  intro herror
  let c : Configuration := ⟨.empty, List.replicate s.depth .empty, none⟩
  have hopens : Frame.empty.Opens notion := by cases notion <;> trivial
  -- the machine, with as many empty frames as groups are open, fails as the rule does
  have hleads := follows limit (s.course limit c) notion s .empty _ hopens ⟨rfl, hplain⟩
    List.length_replicate.symm
  rw [h] at hleads
  have hresult : c.outcome limit s.ahead = .error abort.error := by
    rw [← Configuration.result_course limit c s.consumed]
    exact congrArg Outcome.result hleads
  rw [herror] at hresult
  obtain ⟨before, c', -, hrefuses, -⟩ :=
    Configuration.exists_refuses (State.plain_ahead hplain) hresult
  cases hrefuses

/-- To consume a token of another kind would be such a failure. -/
lemma State.consume_of_ne {s : State} {kind : Token.Kind} (hkind : kind ≠ .endOfInput)
    (h : s.lookahead.value.kind ≠ kind) :
    s.consume kind hkind = .error (s.refuse (.unexpectedToken kind s.lookahead.value.kind)) :=
  dif_neg h

end Evaluation

/-- **The fault in the order of the tokens is told by the tokens before it.**  An operand was
expected exactly if there is no token before, or the last one is an operator or an opening
parenthesis.  Otherwise the balance of the parentheses decides: a group had to be closed if one is
open, and the input had to end if none is.  The fault is never that one particular kind of token had
to come: this is what consuming a token of another kind would give, and no rule gives it. -/
theorem evaluateWithin_refusal (maxDepth : Nat) (input : String) :
    (∀ fault offset, evaluateWithin maxDepth input = .error ⟨.syntactic fault, offset⟩ →
        ((∃ found, fault = .expectedOperand found) ↔
            ∀ last ∈ ((TokenStream.ofString input).before offset).getLast?,
              last.value.AwaitsOperand)
        ∧ ((∃ last ∈ ((TokenStream.ofString input).before offset).getLast?,
              ¬last.value.AwaitsOperand) →
            (0 < balance ((TokenStream.ofString input).before offset)
              ∧ ∃ found, fault = .expectedClosingParen found
                ∧ (found = .number ∨ found = .leftParen ∨ found = .endOfInput))
            ∨ (balance ((TokenStream.ofString input).before offset) = 0
              ∧ ∃ found, fault = .unexpectedTrailingInput found
                ∧ (found = .number ∨ found = .leftParen ∨ found = .rightParen))))
      ∧ (∀ expected found offset, evaluateWithin maxDepth input
          ≠ .error ⟨.syntactic (.unexpectedToken expected found), offset⟩)
      ∧ (∀ (s : Evaluation.State) (kind : Token.Kind) (hkind : kind ≠ .endOfInput),
          s.lookahead.value.kind ≠ kind → s.consume kind hkind
            = .error (s.refuse (.unexpectedToken kind s.lookahead.value.kind)))
      ∧ ∀ (notion : Notion) (s : Evaluation.State), s.upcoming.Plain → ∀ abort,
          Evaluation.rule maxDepth notion s = .error abort → ∀ expected found offset,
            abort.error ≠ ⟨.syntactic (.unexpectedToken expected found), offset⟩ := by
  have hplain := TokenStream.plain_ofString input
  have hoffsets := TokenStream.offsets_ofString input
  rw [evaluateWithin_eq_outcome]
  refine ⟨?_, ?_, fun s kind hkind => Evaluation.State.consume_of_ne hkind,
    fun notion s hs abort => Evaluation.rule_ne_unexpectedToken hs⟩
  · intro fault offset h
    obtain ⟨c, hreads, hrefuses⟩ :=
      Machine.Configuration.exists_refuses_before hplain hoffsets h
    obtain ⟨hbalance, -⟩ := Machine.Configuration.balance_of_advance hreads
    have hwants := Machine.Configuration.operand?_eq_none_iff hreads
    rw [hbalance, ← hwants]
    cases hrefuses with
    | operand found wants =>
        refine ⟨iff_of_true ⟨found, rfl⟩ wants, ?_⟩
        rintro ⟨last, hmem, hlast⟩
        exact absurd (hwants.1 wants last hmem) hlast
    | closing found holds opened found_eq =>
        refine ⟨iff_of_false nofun holds, fun _ => .inl ⟨Int.ofNat_lt.2 opened, found, rfl, ?_⟩⟩
        exact found_eq
    | trailing found holds closed found_eq =>
        refine ⟨iff_of_false nofun holds, fun _ => .inr ⟨congrArg Int.ofNat closed, found, rfl, ?_⟩⟩
        exact found_eq
  · intro expected found offset h
    obtain ⟨before, c, -, hrefuses, -⟩ := Machine.Configuration.exists_refuses hplain h
    cases hrefuses

/-- In `(1)+((2)3` the last number comes after a closing parenthesis, and a group is still open. -/
theorem evaluateWithin_refusal_closing :
    evaluateWithin 2 "(1)+((2)3" = .error ⟨.syntactic (.expectedClosingParen .number), 8⟩
      ∧ 0 < balance ((TokenStream.ofString "(1)+((2)3").before 8) := by
  have hstream : TokenStream.ofString "(1)+((2)3"
      = ⟨[⟨.leftParen, 0⟩, ⟨.number 1, 1⟩, ⟨.rightParen, 2⟩, ⟨.operator .add, 3⟩, ⟨.leftParen, 4⟩,
          ⟨.leftParen, 5⟩, ⟨.number 2, 6⟩, ⟨.rightParen, 7⟩, ⟨.number 3, 8⟩], .endOfInput 9⟩ := by
    decide +kernel
  have h : evaluateWithin 2 "(1)+((2)3"
      = .error ⟨.syntactic (.expectedClosingParen .number), 8⟩ := by
    rw [evaluateWithin_eq_outcome, hstream]
    rfl
  have hlast : ∃ last ∈ ((TokenStream.ofString "(1)+((2)3").before 8).getLast?,
      ¬last.value.AwaitsOperand := by
    rw [hstream]
    exact ⟨⟨.rightParen, 7⟩, rfl, id⟩
  obtain ⟨hrefusal, -⟩ := evaluateWithin_refusal 2 "(1)+((2)3"
  rcases (hrefusal _ _ h).2 hlast with ⟨hopened, -⟩ | ⟨-, found, herror, -⟩
  · exact ⟨h, hopened⟩
  · cases herror

end Calculator
