import Mathlib.Tactic.Common
import Calculator.Proofs.Pulled
import Calculator.Proofs.Tiling

/-!
# What stands where an error is

The offset of an error is a place in the text of the input, and what the text shows there is what
the error is about.

* **Tokens**: `Token.Heads` says how a text begins where a token stands, and
  `TokenStream.exists_append_of_mem_trace` that it does so at the offset of each token of an input.
* **Faults**: `Fault.Heads` says the same of a fault.  If the fault is lexical, the lexeme shows it,
  `Lexeme.Classified.heads_of_error`; all others are found at a token, and what they concern is
  there to see, `Fault.Concerns.heads`.

`evaluateWithin_place` puts the two together.
-/

namespace Calculator

/-! ## Tokens -/

/-- How a text begins where a token stands: with the digits of the number, or with the symbol.  At
the end of the input there is no text left. -/
def Token.Heads (text : List Char) : Token → Prop
  | .number n => text.takeWhile Char.isDigit ≠ []
      ∧ n = Decimal.value (text.takeWhile Char.isDigit)
  | .operator op => text.head? = some op.symbol
  | .leftParen => text.head? = some '('
  | .rightParen => text.head? = some ')'
  | .endOfInput => text = []

/-- How a text begins where a fault is: with the character that belongs to no token, with all the
digits of the number that is out of range, with the token that is out of order, or with the operator
or parenthesis at which the calculation breaks off. -/
def Fault.Heads (text : List Char) : Fault → Prop
  | .lexical (.unrecognizedCharacter c) => text.head? = some c ∧ c ∉ alphabet
  | .lexical (.literalTooLarge literal) => literal.toList = text.takeWhile Char.isDigit
      ∧ literal ≠ "" ∧ maxNumber < Decimal.value literal.toList
  | .syntactic fault => ∃ token : Token, token.kind = fault.found ∧ token.Heads text
  | .runtime .divisionByZero => text.head? = some '/'
  | .runtime .overflow => ∃ op : Operator, text.head? = some op.symbol
  | .runtime (.nestingTooDeep _) => text.head? = some '('

/-- The text of a symbol heads any text that begins with it. -/
lemma Token.IsSymbol.heads {token : Token} (h : token.IsSymbol) (text : List Char) :
    token.Heads (token.text.toList ++ text) := by
  cases token with
  | operator op =>
      rw [Heads, Token.text, String.toList_singleton]
      rfl
  | leftParen => rfl
  | rightParen => rfl
  | number _ => exact h.elim
  | endOfInput => exact h.elim

/-- A run of digits that is maximal is all that the text begins with. -/
lemma MaximalRun.takeWhile_isDigit {front run rest : List Char} (h : MaximalRun front run rest) :
    (run ++ rest).takeWhile Char.isDigit = run :=
  (takeWhile_eq_and_dropWhile_eq_iff.2 ⟨rfl, h.digits, h.after⟩).1

namespace Lexeme.Classified

variable {lexeme : Lexeme} {front rest : List Char}

/-- The text begins as the token that the lexeme is. -/
lemma heads_of_ok (h : lexeme.Classified front rest) {token : Token}
    (hread : lexeme.read = .ok token) : token.Heads (lexeme.text ++ rest) := by
  cases h with
  | symbol _ hsymbol htext hread' =>
      cases hread.symm.trans hread'
      rw [htext]
      exact hsymbol.heads rest
  | number hrun _ hread' =>
      cases hread.symm.trans hread'
      rw [Token.Heads, hrun.takeWhile_isDigit]
      exact ⟨hrun.ne_nil, rfl⟩
  | literalTooLarge _ _ hread' => cases hread.symm.trans hread'
  | unrecognizedCharacter _ _ _ hread' => cases hread.symm.trans hread'

/-- The text begins with what is wrong with the lexeme. -/
lemma heads_of_error (h : lexeme.Classified front rest) {fault : LexicalFault}
    (hread : lexeme.read = .error fault) :
    (Fault.lexical fault).Heads (lexeme.text ++ rest) := by
  cases h with
  | symbol _ _ _ hread' => cases hread.symm.trans hread'
  | number _ _ hread' => cases hread.symm.trans hread'
  | literalTooLarge hrun hlarge hread' =>
      cases hread.symm.trans hread'
      rw [Fault.Heads, String.toList_ofList, hrun.takeWhile_isDigit]
      refine ⟨rfl, ?_, hlarge⟩
      rw [← String.toList_inj.ne, String.toList_ofList]
      exact hrun.ne_nil
  | unrecognizedCharacter c htext hc hread' =>
      cases hread.symm.trans hread'
      rw [htext]
      exact ⟨rfl, hc⟩

end Lexeme.Classified

/-- What a fault concerns is there to see. -/
lemma Fault.Concerns.heads {fault : Fault} {token : Token} (h : fault.Concerns token)
    {text : List Char} (htext : token.Heads text) : fault.Heads text := by
  rcases fault with fault | fault | fault | fault | fault
  · exact h.elim
  · exact ⟨token, h, htext⟩
  · obtain rfl : token = .operator .div := h
    exact htext
  · obtain ⟨op, rfl⟩ := h
    exact ⟨op, htext⟩
  · obtain rfl : token = .leftParen := h
    exact htext

namespace TokenStream

/-- **The text shows each token where it stands**, and it does not stand inside a run of digits. -/
theorem exists_append_of_mem_trace {input : String} {token : Located Token}
    (h : token ∈ (ofString input).trace) :
    ∃ front rest : String, input = front ++ rest ∧ front.utf8ByteSize = token.offset
      ∧ ¬BetweenDigits front.toList rest.toList ∧ token.value.Heads rest.toList := by
  have hlexeme : token ∈ (ofString input).tokens →
      ∃ front rest : String, input = front ++ rest ∧ front.utf8ByteSize = token.offset
        ∧ ¬BetweenDigits front.toList rest.toList ∧ token.value.Heads rest.toList := by
    intro hmem
    obtain ⟨lexeme, hlexeme, hstart, hread⟩ := exists_lexeme_of_mem_ofString hmem
    obtain ⟨front, rest, after, rfl, hfront, hseam, hrest, hwhole⟩ :=
      exists_append_of_mem_lexemes hlexeme
    refine ⟨front, rest, rfl, hfront.trans hstart, hseam, ?_⟩
    rw [hrest] at hseam ⊢
    exact (hwhole.classified hseam).heads_of_ok hread
  rw [trace] at h
  split at h
  · rename_i offset hending
    rcases List.mem_append.1 h with hmem | hmem
    · exact hlexeme hmem
    · obtain rfl := List.mem_singleton.1 hmem
      refine ⟨input, "", String.append_empty.symm, (offset_ofString hending).symm, ?_, rfl⟩
      rintro ⟨_, _, _, ⟨⟩, -⟩
  · exact hlexeme h

/-- It shows the lexical error with which the tokens end, too. -/
lemma exists_append_of_failure {input : String} {error : LexicalError}
    (h : (ofString input).ending = .failure error) :
    ∃ front rest : String, input = front ++ rest ∧ front.utf8ByteSize = error.offset
      ∧ ¬BetweenDigits front.toList rest.toList
      ∧ (Fault.lexical error.value).Heads rest.toList := by
  obtain ⟨lexeme, hlexeme, hstart, hread⟩ := exists_lexeme_of_ending h
  obtain ⟨front, rest, after, rfl, hfront, hseam, hrest, hwhole⟩ :=
    exists_append_of_mem_lexemes hlexeme
  refine ⟨front, rest, rfl, hfront.trans hstart, hseam, ?_⟩
  rw [hrest] at hseam ⊢
  exact (hwhole.classified hseam).heads_of_error hread

end TokenStream

/-! ## Errors -/

/-- An evaluation that fails does so at a token that it could pull, or with the lexical error at
which the tokens end. -/
lemma exists_foundAt_of_evaluateWithin {maxDepth : Nat} {input : String} {error : EvaluationError}
    (h : evaluateWithin maxDepth input = .error error) :
    (∃ token ∈ (TokenStream.ofString input).trace, error.FoundAt token)
      ∨ ∃ lexical, (TokenStream.ofString input).ending = .failure lexical
        ∧ lexical.map .lexical = error := by
  have hbreaks := breaksOff_of_evaluateWithin_eq_error h
  rcases hbreaks.exists_foundAt with ⟨token, hmem, hfound⟩ | hlexical
  · exact .inl ⟨token, hbreaks.prefix_trace.subset hmem, hfound⟩
  · exact .inr hlexical

/-- Only the end of the input heads an empty text. -/
lemma Token.heads_nil_iff {token : Token} : token.Heads [] ↔ token = .endOfInput := by
  cases token <;> simp [Heads]

/-- **The text shows each error where it stands.** -/
lemma exists_append_of_evaluateWithin {maxDepth : Nat} {input : String} {error : EvaluationError}
    (h : evaluateWithin maxDepth input = .error error) :
    ∃ front rest : String, input = front ++ rest ∧ front.utf8ByteSize = error.offset
      ∧ ¬BetweenDigits front.toList rest.toList ∧ error.value.Heads rest.toList := by
  rcases exists_foundAt_of_evaluateWithin h with
    ⟨token, hmem, hoffset, hconcerns⟩ | ⟨lexical, hending, rfl⟩
  · obtain ⟨front, rest, hinput, hfront, hseam, hheads⟩ :=
      TokenStream.exists_append_of_mem_trace hmem
    exact ⟨front, rest, hinput, hfront.trans hoffset, hseam, hconcerns.heads hheads⟩
  · exact TokenStream.exists_append_of_failure hending

/-- What a syntax error has found is a token that could be pulled. -/
lemma exists_mem_trace_of_syntactic {maxDepth : Nat} {input : String} {fault : SyntaxFault}
    {offset : Nat} (h : evaluateWithin maxDepth input = .error ⟨.syntactic fault, offset⟩) :
    ∃ token ∈ (TokenStream.ofString input).trace, token.offset = offset
      ∧ token.value.kind = fault.found := by
  rcases exists_foundAt_of_evaluateWithin h with hfound | ⟨lexical, -, hlexical⟩
  · exact hfound
  · cases hlexical

/-- The end of the input is found where no text is left. -/
lemma found_eq_endOfInput_iff {fault : SyntaxFault} {text : List Char}
    (h : (Fault.syntactic fault).Heads text) : fault.found = .endOfInput ↔ text = [] := by
  obtain ⟨token, hkind, hheads⟩ := h
  rw [← hkind, Token.kind_eq_endOfInput_iff]
  constructor
  · rintro rfl
    exact hheads
  · rintro rfl
    exact Token.heads_nil_iff.1 hheads

/-- **Errors stand where they say.** The offset of an error is a place between two characters of the
input, or its beginning or end, and the text that follows begins with what the error is about.  It
is never inside a run of digits, so that a literal that is too large is all of its run.  What a
syntax error has found is a token that tokenizing gives there; and it is the end of the input
exactly if the offset is. -/
theorem evaluateWithin_place {maxDepth : Nat} {input : String} {error : EvaluationError}
    (h : evaluateWithin maxDepth input = .error error) :
    error.offset ≤ input.utf8ByteSize
      ∧ (∃ front rest : String, input = front ++ rest ∧ front.utf8ByteSize = error.offset
        ∧ ¬BetweenDigits front.toList rest.toList ∧ error.value.Heads rest.toList)
      ∧ ∀ fault, error.value = .syntactic fault →
          (∃ token ∈ (TokenStream.ofString input).trace, token.offset = error.offset
            ∧ token.value.kind = fault.found)
          ∧ (fault.found = .endOfInput ↔ error.offset = input.utf8ByteSize) := by
  obtain ⟨front, rest, rfl, hfront, hseam, hheads⟩ := exists_append_of_evaluateWithin h
  have hsize : (front ++ rest).utf8ByteSize = error.offset + rest.utf8ByteSize := by
    rw [String.utf8ByteSize_append, hfront]
  refine ⟨by omega, ⟨front, rest, rfl, hfront, hseam, hheads⟩, ?_⟩
  intro fault hfault
  rcases error with ⟨_, offset⟩
  obtain rfl : _ = Fault.syntactic fault := hfault
  refine ⟨exists_mem_trace_of_syntactic h, ?_⟩
  rw [found_eq_endOfInput_iff hheads, String.toList_eq_nil_iff, ← String.utf8ByteSize_eq_zero_iff]
  omega

/-- In `1*99999999999999999999é` the literal that is too large begins at the third byte and goes on
up to the character of two bytes. -/
theorem evaluateWithin_place_literal :
    evaluateWithin 0 "1*99999999999999999999é"
        = .error ⟨.lexical (.literalTooLarge "99999999999999999999"), 2⟩
      ∧ ∃ front rest : String, "1*99999999999999999999é" = front ++ rest ∧ front.utf8ByteSize = 2
        ∧ "99999999999999999999".toList = rest.toList.takeWhile Char.isDigit := by
  have hstream : TokenStream.ofString "1*99999999999999999999é"
      = ⟨[⟨.number 1, 0⟩, ⟨.operator .mul, 1⟩],
        .failure ⟨.literalTooLarge "99999999999999999999", 2⟩⟩ := by decide +kernel
  have h : evaluateWithin 0 "1*99999999999999999999é"
      = .error ⟨.lexical (.literalTooLarge "99999999999999999999"), 2⟩ := by
    rw [evaluateWithin_eq_outcome, hstream]
    rfl
  obtain ⟨-, ⟨front, rest, hinput, hfront, -, hliteral, -⟩, -⟩ := evaluateWithin_place h
  exact ⟨h, front, rest, hinput, hfront, hliteral⟩

end Calculator
