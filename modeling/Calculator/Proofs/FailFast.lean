import Mathlib.Tactic.Common
import Calculator.Proofs.Lexemes
import Calculator.Proofs.Places

/-!
# What an evaluation has not pulled

An evaluation stops at the first thing that is wrong.  By then it has pulled some items off its
input, and what comes after the last of them has no say in the error.

* **In the text**, `TokenStream.exists_append_of_stop_le`: a lexeme is whole where it stands.  So a
  text can be parted after it, and the stream of what comes before does not change with the rest.
* **On the stream**, `outcome_append_of_lastItemAt`: if the last item stands in the first of two
  streams, then the second can be any other one.

The main statement is `evaluateWithin_failFast`.
-/

namespace Calculator

/-! ## In the text -/

/-- A text that is no longer than the first of two is a part of that one. -/
lemma exists_append_of_byteLength_le {left right front back : List Char}
    (h : left ++ right = front ++ back) (hle : byteLength front ≤ byteLength left) :
    ∃ middle, left = front ++ middle ∧ back = middle ++ right := by
  rcases List.append_eq_append_iff.1 h with ⟨extra, rfl, rfl⟩ | ⟨middle, rfl, rfl⟩
  · have hextra : extra = [] := by
      by_contra hne
      have hpos := byteLength_pos hne
      rw [byteLength_append] at hle
      omega
    rw [hextra]
    exact ⟨[], by simp, by simp⟩
  · exact ⟨middle, rfl, rfl⟩

namespace TokenStream

/-- **A text can be parted after a lexeme**, and what comes before has the same tokens whatever
comes after, as long as a run of digits does not go on. -/
theorem exists_append_of_stop_le {front back back' : String} {lexeme : Lexeme}
    (hmem : lexeme ∈ (Cursor.start (front ++ back)).lexemes)
    (hstop : lexeme.stop ≤ front.utf8ByteSize)
    (hdigits : lexeme.first.isDigit → lexeme.stop = front.utf8ByteSize →
      ∀ c ∈ back'.toList.head?, ¬c.isDigit) :
    ∃ first second second' : TokenStream, ofString (front ++ back) = first.append second
      ∧ ofString (front ++ back') = first.append second'
      ∧ ∀ offset ∈ second.offsets, lexeme.start < offset := by
  obtain ⟨before, rest, htext, hstart, hwhole, -⟩ := Cursor.exists_append_of_mem_lexemes hmem
  have hbefore : byteLength (before ++ lexeme.text) = lexeme.stop := by
    rw [byteLength_append, Lexeme.stop, hstart, Cursor.start, Nat.zero_add]
  rw [← byteLength_toList] at hstop hdigits
  obtain ⟨middle, hfront, rfl⟩ := exists_append_of_byteLength_le
    ((String.toList_append ..).symm.trans htext) (hbefore ▸ hstop)
  have hparted : ∀ other : String,
      (lexeme.first.isDigit → ∀ c ∈ (middle ++ other.toList).head?, ¬c.isDigit) →
        ofString (front ++ other) = (Cursor.stream ⟨0, before ++ lexeme.text⟩).append
          (Cursor.stream ⟨lexeme.stop, middle ++ other.toList⟩) := by
    intro other hother
    have happend := Cursor.stream_append ⟨0, before ++ lexeme.text⟩
      (hwhole.not_betweenDigits before hother)
    simp only [hbefore, Nat.zero_add] at happend
    rw [ofString_eq, Cursor.start, String.toList_append, hfront, List.append_assoc, happend]
  refine ⟨_, _, _, hparted back fun hdigit => (hwhole.digits hdigit).2, hparted back' ?_, ?_⟩
  · intro hdigit
    cases middle with
    | nil =>
        refine hdigits hdigit ?_
        rw [hfront, List.append_nil, hbefore]
    | cons c middle => exact (hwhole.digits hdigit).2
  · intro offset hoffset
    have hle : lexeme.stop ≤ offset := (Cursor.offsets_stream _).2 offset hoffset
    exact Nat.lt_of_lt_of_le lexeme.start_lt_stop hle

end TokenStream

/-! ## On the stream -/

/-- An element of a concatenation that is not in the back is in the front. -/
lemma exists_append_of_notMem {α : Type} {front back before after : List α} {a : α}
    (h : front ++ back = before ++ a :: after) (ha : a ∉ back) :
    ∃ after', front = before ++ a :: after' := by
  rcases List.append_eq_append_iff.1 h with ⟨extra, -, hback⟩ | ⟨extra, hfront, hrest⟩
  · exact absurd (by simp [hback]) ha
  · cases extra with
    | nil =>
        rw [List.nil_append] at hrest
        exact absurd (hrest ▸ List.mem_cons_self) ha
    | cons first extra =>
        obtain ⟨rfl, -⟩ := List.cons.inj hrest
        exact ⟨extra, hfront⟩

namespace Evaluation.Outcome

/-- **The last item that an evaluation pulled stands at this place**: the lexeme of its lexical
error, or else the last token, which must not be the end of the input. -/
def LastItemAt (outcome : Outcome) (place : Nat) : Prop :=
  match outcome.result with
  | .error ⟨.lexical _, offset⟩ => offset = place
  | _ => ∃ token, outcome.pulled.getLast? = some token ∧ token.value ≠ .endOfInput
      ∧ token.offset = place

lemma LastItemAt.of_error {outcome : Outcome} {place : Nat} (h : outcome.LastItemAt place)
    {error : EvaluationError} (hresult : outcome.result = .error error) :
    (∃ lexical : LexicalError, lexical.map .lexical = error ∧ lexical.offset = place)
      ∨ ((∀ lexical : LexicalError, lexical.map .lexical ≠ error)
        ∧ ∃ token, outcome.pulled.getLast? = some token ∧ token.value ≠ .endOfInput
          ∧ token.offset = place) := by
  rw [LastItemAt, hresult] at h
  rcases error with ⟨fault | fault | fault, offset⟩
  · exact .inl ⟨⟨fault, offset⟩, rfl, h⟩
  · exact .inr ⟨nofun, h⟩
  · exact .inr ⟨nofun, h⟩

end Evaluation.Outcome

namespace Machine.Configuration

variable {limit : Nat}

/-- **A token that is refused is refused whatever comes after it.** -/
lemma outcome_of_take_eq_error {c c' : Configuration} {before : List (Located Token)}
    {token : Located Token} {error : EvaluationError} (hreads : c.advance limit before = .ok c')
    (hfails : c'.take limit token = .error error) (after : List (Located Token))
    (ending : Ending) :
    c.outcome limit ⟨before ++ token :: after, ending⟩ = .error error := by
  rw [outcome_append hreads, outcome_cons, hfails, error_bind]

/-- **What comes after the last item has no say in the error.** -/
theorem outcome_append_of_lastItemAt {first second : TokenStream} {place : Nat}
    {error : EvaluationError}
    (h : (Evaluation.outcome limit (first.append second)).result = .error error)
    (hplain : (first.append second).Plain)
    (hlast : (Evaluation.outcome limit (first.append second)).LastItemAt place)
    (hafter : ∀ offset ∈ second.offsets, place < offset) (other : TokenStream) :
    initial.outcome limit (first.append other) = .error error := by
  rw [Evaluation.outcome_eq_course hplain] at h hlast
  obtain ⟨pulled, hpulled, hbreaks⟩ := breaksOff_of_course h
  rcases first with ⟨tokens, endOfInput | lexical⟩
  · -- the second stream follows, and nothing that stands in it has been pulled
    rcases hlast.of_error h with ⟨lexical, rfl, rfl⟩ | ⟨hlexical, token, htoken, hne, rfl⟩
    · have hending : second.ending = .failure lexical := hbreaks.ending_of_lexical
      have hlt := hafter second.ending.offset
        (List.mem_append_right _ (List.mem_singleton_self _))
      rw [hending] at hlt
      exact absurd hlt (Nat.lt_irrefl _)
    · rw [hpulled] at htoken
      have hnot : token ∉ second.tokens := fun hmem =>
        Nat.lt_irrefl _ (hafter _ (List.mem_append_left _ (List.mem_map_of_mem hmem)))
      cases hbreaks with
      | @token before _ refused _ tokens_eq reads fails =>
          obtain rfl : refused = token := by simpa using htoken
          obtain ⟨after, rfl⟩ := exists_append_of_notMem tokens_eq hnot
          show initial.outcome limit ⟨(before ++ refused :: after) ++ other.tokens, _⟩ = _
          rw [List.append_assoc, List.cons_append]
          exact outcome_of_take_eq_error reads fails _ _
      | endOfInput ending_eq reads fails =>
          obtain rfl : _ = token := by simpa using htoken
          exact absurd rfl hne
      | failure ending_eq reads fails => exact absurd fails (hlexical _)
  · rwa [result_course] at h

end Machine.Configuration

/-- **Fail-fast.**  If an evaluation fails, and the lexeme that it pulled last stops within the
first part of its input, then with any other second part it fails with the same error; only a run of
digits that stops where the first part does must not go on. -/
theorem evaluateWithin_failFast {maxDepth : Nat} {front back back' : String}
    {error : EvaluationError} {lexeme : Lexeme}
    (h : evaluateWithin maxDepth (front ++ back) = .error error)
    (hmem : lexeme ∈ (Cursor.start (front ++ back)).lexemes)
    (hlast : (Evaluation.outcome maxDepth (.ofString (front ++ back))).LastItemAt lexeme.start)
    (hstop : lexeme.stop ≤ front.utf8ByteSize)
    (hdigits : lexeme.first.isDigit → lexeme.stop = front.utf8ByteSize →
      ∀ c ∈ back'.toList.head?, ¬c.isDigit) :
    evaluateWithin maxDepth (front ++ back') = .error error := by
  obtain ⟨first, second, second', hback, hback', hafter⟩ :=
    TokenStream.exists_append_of_stop_le hmem hstop hdigits
  have hplain := TokenStream.plain_ofString (front ++ back)
  rw [evaluateWithin, hback] at h
  rw [hback] at hlast hplain
  rw [evaluateWithin_eq_outcome, hback']
  exact Machine.Configuration.outcome_append_of_lastItemAt h hplain hlast hafter second'

/-- In `(2 3@` the number `3` comes where a parenthesis had to close, and so it does before `+1)`
instead of `@`. -/
theorem evaluateWithin_failFast_number :
    evaluateWithin 1 "(2 3@" = .error ⟨.syntactic (.expectedClosingParen .number), 3⟩
      ∧ evaluateWithin 1 "(2 3+1)" = .error ⟨.syntactic (.expectedClosingParen .number), 3⟩ := by
  have htext : "(2 3@" = "(2 3" ++ "@" := rfl
  have htext' : "(2 3+1)" = "(2 3" ++ "+1)" := rfl
  have hstream : TokenStream.ofString "(2 3@"
      = ⟨[⟨.leftParen, 0⟩, ⟨.number 2, 1⟩, ⟨.number 3, 3⟩],
        .failure ⟨.unrecognizedCharacter '@', 4⟩⟩ := by decide +kernel
  have houtcome : Evaluation.outcome 1 (.ofString "(2 3@")
      = ⟨.error ⟨.syntactic (.expectedClosingParen .number), 3⟩,
        [⟨.leftParen, 0⟩, ⟨.number 2, 1⟩, ⟨.number 3, 3⟩]⟩ := by
    rw [Evaluation.outcome_eq_course (TokenStream.plain_ofString _), hstream]
    rfl
  have h : evaluateWithin 1 "(2 3@"
      = .error ⟨.syntactic (.expectedClosingParen .number), 3⟩ := by
    rw [evaluateWithin, houtcome]
  have hlast : (Evaluation.outcome 1 (.ofString "(2 3@")).LastItemAt 3 := by
    rw [houtcome]
    exact ⟨⟨.number 3, 3⟩, rfl, nofun, rfl⟩
  have hmem : ⟨3, '3', []⟩ ∈ (Cursor.start "(2 3@").lexemes := by decide +kernel
  have hdigit : ∀ c ∈ "+1)".toList.head?, ¬c.isDigit := by
    rintro c ⟨⟩
    decide
  refine ⟨h, ?_⟩
  rw [htext] at h hlast hmem
  rw [htext']
  exact evaluateWithin_failFast h hmem hlast (by decide +kernel) fun _ _ => hdigit

end Calculator
