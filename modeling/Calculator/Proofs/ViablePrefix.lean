import Mathlib.Tactic.Common
import Calculator.Proofs.Limit

/-!
# Viable prefixes

Why the machine finds a fault in the order of the tokens at the first token where there is one.  Two
halves, which meet where it stops.

**What has been read can go on.**  Whatever the machine waits for can be supplied: an operand if it
wants one, and a closing parenthesis for each group that is open.  So each outline begins a sentence
(`Outline.exists_rest`).

**What it refuses cannot.**  A refusal does not look at what comes after the token, and a higher
limit does not take it back.  But on a sentence, with a limit that has room for its groups, the
machine computes the tree and refuses nothing (`Configuration.not_derives_of_take`).
-/

namespace Calculator.Machine

namespace Outline

/-! ## What has been read can go on -/

/-- Where an operand is held, closing parentheses make a sentence. -/
lemma exists_rest_of_operand (top : Layer) (outer : List (Layer × Nat)) (operand : Tree .factor) :
    ∃ rest, Derives .expression (outerTokens outer ++ top.tokens ++ operand.tokens ++ rest) := by
  induction outer generalizing top operand with
  | nil =>
      refine ⟨[], top.close operand, ?_⟩
      rw [Layer.tokens_close, List.append_nil]
      rfl
  | cons head outer ih =>
      rcases head with ⟨layer, opening⟩
      -- the innermost group, once closed, is the operand that the layer around it holds
      obtain ⟨rest, tree, htree⟩ := ih layer (.group opening (top.close operand) 0)
      refine ⟨⟨.rightParen, 0⟩ :: rest, tree, ?_⟩
      rw [htree]
      simp [outerTokens, Tree.tokens, Layer.tokens_close]

/-- **What the machine has read begins a sentence.** -/
theorem exists_rest (o : Outline) : ∃ rest, Derives .expression (o.tokens ++ rest) := by
  rcases o with ⟨top, outer, _ | operand⟩
  · obtain ⟨rest, tree, htree⟩ := exists_rest_of_operand top outer (.number 0 0)
    refine ⟨⟨.number 0, 0⟩ :: rest, tree, ?_⟩
    rw [htree]
    simp [tokens, operandTokens, Tree.tokens]
  · exact exists_rest_of_operand top outer operand.tree

end Outline

/-! ## Refusals -/

/-- An operation that is carried out can fail, but not for the order of the tokens. -/
lemma settle_ne_syntactic {pending? : Option Pending} {right : Int} {fault : SyntaxFault}
    {offset : Nat} : settle pending? right ≠ .error ⟨.syntactic fault, offset⟩ := by
  intro h
  obtain ⟨pending, -, failure, -, herror⟩ := settle_eq_error_iff.1 h
  cases herror

/-- Nor can the computation of a tree. -/
lemma compute_ne_syntactic {notion : Notion} {tree : Tree notion} {fault : SyntaxFault}
    {offset : Nat} : tree.compute ≠ .error ⟨.syntactic fault, offset⟩ := by
  intro h
  obtain ⟨error, -, herror⟩ := mapError_eq_error_iff.1 h
  cases herror

namespace Configuration

variable {limit limit' : Nat} {fault : SyntaxFault} {offset : Nat}

/-- **A refusal is at the token that it names.** -/
lemma take_eq_syntactic {c : Configuration} {token : Located Token}
    (h : c.take limit token = .error ⟨.syntactic fault, offset⟩) :
    token.offset = offset ∧ token.value.kind = fault.found := by
  rcases c with ⟨top, outer, _ | operand⟩
  · rcases want_eq_error h with ⟨-, -, herror⟩ | ⟨-, -, herror⟩
    · cases herror
    · cases herror
      exact ⟨rfl, rfl⟩
  · rcases hold_eq_error h with
      h | ⟨term, -, -, h | ⟨value, -, -, ⟨-, herror⟩ | ⟨-, -, herror⟩⟩⟩
    · exact absurd h settle_ne_syntactic
    · exact absurd h settle_ne_syntactic
    · cases herror
      exact ⟨rfl, rfl⟩
    · cases herror
      exact ⟨rfl, rfl⟩

lemma finish_eq_syntactic {c : Configuration} {offset' : Nat}
    (h : c.finish offset' = .error ⟨.syntactic fault, offset⟩) :
    offset' = offset ∧ fault.found = .endOfInput := by
  obtain ⟨hoffset, hkind⟩ := take_eq_syntactic (take_of_finish h 0)
  exact ⟨hoffset, hkind.symm⟩

/-- A refusal has nothing to do with the limit. -/
lemma take_syntactic_of_limit (hlimit : limit ≤ limit') {c : Configuration} {token : Located Token}
    (h : c.take limit token = .error ⟨.syntactic fault, offset⟩) :
    c.take limit' token = .error ⟨.syntactic fault, offset⟩ := by
  rcases take_of_limit hlimit c token with heq | hdeep
  · rw [heq, h]
  · cases h.symm.trans hdeep

/-! ## Reading on -/

/-- Hence it only comes through tokens that begin a sentence. -/
lemma exists_rest_of_advance {c : Configuration} {tokens : List (Located Token)}
    (h : initial.advance limit tokens = .ok c) : ∃ rest, Derives .expression (tokens ++ rest) := by
  obtain ⟨o, -, ho⟩ := @exists_outline limit Outline.initial c tokens h
  obtain ⟨rest, hrest⟩ := o.exists_rest
  rw [ho] at hrest
  exact ⟨rest, hrest⟩

/-- **Where an evaluation stops for the order of the tokens**: at a token that is refused, or at the
end of the input. -/
lemma exists_advance_of_syntactic {c : Configuration} {tokens : List (Located Token)}
    {ending : Ending} (h : c.outcome limit ⟨tokens, ending⟩ = .error ⟨.syntactic fault, offset⟩) :
    (∃ before token after c', tokens = before ++ token :: after
        ∧ c.advance limit before = .ok c'
        ∧ c'.take limit token = .error ⟨.syntactic fault, offset⟩)
      ∨ ∃ end' c', ending = .endOfInput end' ∧ c.advance limit tokens = .ok c'
        ∧ c'.finish end' = .error ⟨.syntactic fault, offset⟩ := by
  obtain ⟨pulled, hbreaks⟩ := exists_breaksOff h
  cases hbreaks with
  | token tokens_eq reads fails => exact .inl ⟨_, _, _, _, tokens_eq, reads, fails⟩
  | endOfInput ending_eq reads fails => exact .inr ⟨_, _, ending_eq, reads, fails⟩
  | failure ending_eq reads fails => cases fails

/-! ## What it refuses cannot go on -/

/-- **No sentence goes on with a token that the machine refuses.** -/
theorem not_derives_of_take {c : Configuration} {before : List (Located Token)}
    (hbefore : initial.advance limit before = .ok c) {token : Located Token}
    (h : c.take limit token = .error ⟨.syntactic fault, offset⟩) (rest : List (Located Token)) :
    ¬Derives .expression (before ++ token :: rest) := by
  rintro ⟨tree, htree⟩
  -- the sentence may need a higher limit than the one with which its beginning was read
  have hadvance := advance_mono (Nat.le_max_left limit tree.depth) hbefore
  have hcompute := outcome_tree tree (Nat.le_max_right limit tree.depth) 0
  rw [htree, outcome_append hadvance, outcome_cons,
    take_syntactic_of_limit (Nat.le_max_left _ _) h] at hcompute
  exact compute_ne_syntactic hcompute.symm

/-- Tokens after which it cannot finish are no sentence. -/
theorem not_derives_of_finish {c : Configuration} {tokens : List (Located Token)}
    (htokens : initial.advance limit tokens = .ok c) {end' : Nat}
    (h : c.finish end' = .error ⟨.syntactic fault, offset⟩) : ¬Derives .expression tokens := by
  rintro ⟨tree, rfl⟩
  have hadvance := advance_mono (Nat.le_max_left limit tree.depth) htokens
  have hcompute := outcome_tree tree (Nat.le_max_right limit tree.depth) end'
  rw [← List.append_nil tree.tokens, outcome_append hadvance] at hcompute
  exact compute_ne_syntactic (hcompute.symm.trans h)

end Configuration

end Calculator.Machine

namespace Calculator

/-- **Syntax errors are reported at the earliest token.**  What stands before the offset of the
error begins a sentence.  Either no sentence goes on from there with the token at the offset; or the
input ends there, and what stands before, all its tokens, is no sentence.  A lexical error of the
input is always further on. -/
theorem evaluateWithin_syntactic {maxDepth : Nat} {input : String} {fault : SyntaxFault}
    {offset : Nat}
    (h : evaluateWithin maxDepth input = .error ⟨.syntactic fault, offset⟩) :
    (∃ rest, Derives .expression ((TokenStream.ofString input).before offset ++ rest))
      ∧ ((∃ token after, token.offset = offset ∧ token.value.kind = fault.found
            ∧ (TokenStream.ofString input).tokens
              = (TokenStream.ofString input).before offset ++ token :: after
            ∧ ∀ rest, ¬Derives .expression
                ((TokenStream.ofString input).before offset ++ token :: rest))
        ∨ ((TokenStream.ofString input).ending = .endOfInput offset ∧ fault.found = .endOfInput
            ∧ (TokenStream.ofString input).before offset = (TokenStream.ofString input).tokens
            ∧ ¬Derives .expression (TokenStream.ofString input).tokens))
      ∧ ∀ error, tokenize input = .error error → offset < error.offset := by
  have hoffsets := TokenStream.offsets_ofString input
  have hending := fun error => @ending_of_tokenize_eq_error input error
  rw [evaluateWithin_eq_outcome] at h
  generalize TokenStream.ofString input = stream at *
  rcases Machine.Configuration.exists_advance_of_syntactic h with
    ⟨front, token, after, c, htokens, hfront, hrefuses⟩ | ⟨end', c, hend, hall, hfinish⟩
  · obtain ⟨rfl, hkind⟩ := Machine.Configuration.take_eq_syntactic hrefuses
    have hbefore := TokenStream.before_of_append hoffsets htokens
    rw [hbefore]
    refine ⟨Machine.Configuration.exists_rest_of_advance hfront,
      .inl ⟨token, after, rfl, hkind, htokens, ?_⟩, ?_⟩
    · exact Machine.Configuration.not_derives_of_take hfront hrefuses
    · intro error herror
      have hlt := TokenStream.offset_lt_ending hoffsets token (htokens ▸ by simp)
      rwa [hending error herror] at hlt
  · obtain ⟨rfl, hfound⟩ := Machine.Configuration.finish_eq_syntactic hfinish
    have hbefore : stream.before end' = stream.tokens := by
      rw [← TokenStream.before_ending hoffsets, hend]
      rfl
    rw [hbefore]
    refine ⟨Machine.Configuration.exists_rest_of_advance hall, .inr ⟨hend, hfound, rfl, ?_⟩, ?_⟩
    · exact Machine.Configuration.not_derives_of_finish hall hfinish
    · intro error herror
      cases hend.symm.trans (hending error herror)

/-- In `2*(3+)4@` the second parenthesis is out of order, and no sentence begins with `2*(3+)`. -/
theorem evaluateWithin_syntactic_operand :
    evaluateWithin 1 "2*(3+)4@" = .error ⟨.syntactic (.expectedOperand .rightParen), 5⟩
      ∧ ∀ rest, ¬Derives .expression
          ((TokenStream.ofString "2*(3+)4@").before 5 ++ ⟨.rightParen, 5⟩ :: rest) := by
  have hstream : TokenStream.ofString "2*(3+)4@"
      = ⟨[⟨.number 2, 0⟩, ⟨.operator .mul, 1⟩, ⟨.leftParen, 2⟩, ⟨.number 3, 3⟩,
          ⟨.operator .add, 4⟩, ⟨.rightParen, 5⟩, ⟨.number 4, 6⟩],
        .failure ⟨.unrecognizedCharacter '@', 7⟩⟩ := by decide +kernel
  have h : evaluateWithin 1 "2*(3+)4@"
      = .error ⟨.syntactic (.expectedOperand .rightParen), 5⟩ := by
    rw [evaluateWithin_eq_outcome, hstream]
    rfl
  refine ⟨h, ?_⟩
  rcases evaluateWithin_syntactic h with ⟨-, ⟨token, after, -, -, htokens, hno⟩ | ⟨-, hfound, -⟩, -⟩
  · rw [hstream] at htokens hno ⊢
    cases htokens
    exact hno
  · cases hfound

end Calculator
