import Mathlib.Data.List.Basic
import Mathlib.Tactic.Common
import Calculator.Log
import Calculator.Proofs.Lexemes
import Calculator.Proofs.Operands
import Calculator.Proofs.Places
import Calculator.Proofs.ViablePrefix

/-!
# What an evaluation pulls

An evaluation pulls one token ahead of what it consumes, and no more.  Its log tells which.

* **In order**: what is pulled is a beginning of all that can be pulled,
  `Configuration.BreaksOff.prefix_trace`, and of this no two elements stand in the same place,
  `TokenStream.pairwise_trace`.
* **To the end**, if the evaluation has a value, `Configuration.pulled_course_of_ok`.
* **Up to the fault**, if it has none, `Configuration.BreaksOff.lastPulled`: the last token pulled
  is the one that is refused.  If an operation fails, that is the token after its right operand.

`evaluationLog_traces` says all of it of the log of an input.
-/

namespace Calculator

/-! ## All that can be pulled -/

/-- No two elements of what can be pulled stand in the same place. -/
lemma TokenStream.pairwise_trace {stream : TokenStream} (h : stream.offsets.Pairwise (· < ·)) :
    stream.trace.Pairwise fun a b => a.offset < b.offset := by
  rw [← List.pairwise_map]
  rcases stream with ⟨tokens, offset | error⟩
  · have hmap : (trace ⟨tokens, .endOfInput offset⟩).map (·.offset)
        = offsets ⟨tokens, .endOfInput offset⟩ := List.map_append
    rw [hmap]
    exact h
  · exact (List.pairwise_append.1 h).1

lemma TokenStream.tokens_prefix_trace (stream : TokenStream) : stream.tokens <+: stream.trace := by
  rcases stream with ⟨tokens, _ | _⟩
  · exact List.prefix_append _ _
  · exact List.prefix_refl _

/-- What the last token is that an evaluation pulls before it fails with the error.

If the error is lexical, it has pulled all tokens of the stream.  If the order of the tokens is
wrong or a group too many is opened, it stops at the token in question.  If an operation fails, it
stops just after the right operand. -/
def EvaluationError.LastPulled (error : EvaluationError) (stream : TokenStream)
    (pulled : List (Located Token)) : Prop :=
  match error.value with
  | .lexical _ => pulled = stream.tokens
  | .syntactic fault => ∃ token, pulled.getLast? = some token ∧ token.offset = error.offset
      ∧ token.value.kind = fault.found
  | .runtime (.nestingTooDeep _) => pulled.getLast? = some ⟨.leftParen, error.offset⟩
  | .runtime fault => ∃ read next operation, pulled = read ++ [next]
      ∧ Machine.FailsBefore next read operation ⟨fault, error.offset⟩

namespace Machine.Configuration

variable {limit : Nat} {c : Configuration} {stream : TokenStream} {error : EvaluationError}
  {pulled : List (Located Token)}

/-! ## To the end -/

/-- **Where the machine comes to a value, all has been pulled**, up to the end of the input. -/
lemma pulled_course_of_ok {seen : List (Located Token)} {value : Int}
    (h : (c.course limit seen stream.tokens stream.ending).result = .ok value) :
    (∃ offset, stream.ending = .endOfInput offset)
      ∧ (c.course limit seen stream.tokens stream.ending).pulled
        = seen.reverse ++ stream.trace := by
  rcases stream with ⟨tokens, ending⟩
  induction tokens generalizing c seen with
  | nil =>
      cases ending with
      | endOfInput offset => exact ⟨⟨offset, rfl⟩, List.reverse_cons⟩
      | failure lexical => cases h
  | cons token tokens ih =>
      simp only [course] at ih h ⊢
      cases htake : c.take limit token with
      | error refusal =>
          rw [htake] at h
          cases h
      | ok next =>
          rw [htake] at h
          obtain ⟨⟨offset, rfl⟩, hpulled⟩ := ih h
          refine ⟨⟨offset, rfl⟩, ?_⟩
          rw [hpulled, List.reverse_cons, List.append_assoc]
          rfl

/-! ## Up to the fault -/

/-- **What is pulled is a beginning of all that can be pulled.** -/
lemma BreaksOff.prefix_trace (h : BreaksOff limit c stream error pulled) :
    pulled <+: stream.trace := by
  cases h with
  | @token before after token _ tokens_eq reads fails =>
      rw [List.append_cons] at tokens_eq
      exact List.IsPrefix.trans ⟨after, tokens_eq.symm⟩ stream.tokens_prefix_trace
  | endOfInput ending_eq reads fails =>
      refine ⟨[], ?_⟩
      rw [List.append_nil, TokenStream.trace, ending_eq]
  | failure ending_eq reads fails => exact stream.tokens_prefix_trace

/-- The last token pulled is refused, unless the stream ends with a lexical error. -/
lemma BreaksOff.exists_refused (h : BreaksOff limit c stream error pulled) :
    (∃ read next c', pulled = read ++ [next] ∧ c.advance limit read = .ok c'
        ∧ c'.take limit next = .error error)
      ∨ pulled = stream.tokens ∧ ∃ lexical, stream.ending = .failure lexical
        ∧ lexical.map .lexical = error := by
  cases h with
  | token tokens_eq reads fails => exact .inl ⟨_, _, _, rfl, reads, fails⟩
  | endOfInput ending_eq reads fails =>
      exact .inl ⟨_, _, _, rfl, reads, take_of_finish fails limit⟩
  | failure ending_eq reads fails => exact .inr ⟨rfl, _, ending_eq, fails⟩

/-- **The last token pulled** fits the error. -/
theorem BreaksOff.lastPulled (h : BreaksOff limit initial stream error pulled) :
    error.LastPulled stream pulled := by
  rcases h.exists_refused with ⟨read, next, c, rfl, hreads, hfails⟩ | ⟨hpulled, lexical, -, rfl⟩
  · obtain ⟨o, rfl, hread⟩ := exists_outline (o := Outline.initial) hreads
    have hlast : (read ++ [next]).getLast? = some next := List.getLast?_concat
    obtain rfl : o.tokens = read := hread
    rcases error with ⟨fault | fault | fault, offset⟩
    · obtain ⟨place, -, -, hconcerns⟩ := Outline.exists_foundAt_of_take hfails
      exact hconcerns.elim
    · obtain ⟨hoffset, hkind⟩ := take_eq_syntactic hfails
      exact ⟨next, hlast, hoffset, hkind⟩
    · have hoperation := @Outline.exists_failsBefore limit o next ⟨fault, offset⟩ hfails
      cases fault with
      | nestingTooDeep l =>
          obtain ⟨rfl, -, -⟩ := take_eq_nestingTooDeep hfails
          exact hlast
      | divisionByZero =>
          obtain ⟨operation, hbefore⟩ := hoperation nofun
          exact ⟨o.tokens, next, operation, rfl, hbefore⟩
      | overflow =>
          obtain ⟨operation, hbefore⟩ := hoperation nofun
          exact ⟨o.tokens, next, operation, rfl, hbefore⟩
  · exact hpulled

end Machine.Configuration

/-! ## The log -/

/-- A quotation of characters of the alphabet shows them as they are. -/
lemma Quoted.text_of_mem_alphabet {s : String} (h : ∀ c ∈ s.toList, c ∈ alphabet) :
    Quoted.text s = "\"" ++ s ++ "\"" := by
  have hvisible : (alphabet.all fun c =>
      32 ≤ c.toNat && c.toNat ≤ 126 && c ≠ '\x22' && c ≠ '\x5c') = true := by decide
  have hbody : ∀ c ∈ s.toList, Quoted.body '\x22' c = [c] := by
    intro c hc
    have hchar := List.all_eq_true.1 hvisible c (h c hc)
    simp only [Bool.and_eq_true, decide_eq_true_eq] at hchar
    obtain ⟨⟨⟨hlow, hhigh⟩, hquote⟩, hbackslash⟩ := hchar
    exact Quoted.body_eq_self hlow hhigh hquote hbackslash
  have hself : s.toList.flatMap (Quoted.body '\x22') = s.toList := by
    rw [List.flatMap_congr hbody]
    exact List.flatMap_singleton' _
  rw [Quoted.text, hself, ← String.toList_inj]
  simp

/-- Of what is pulled each token leaves a trace. -/
lemma LogEntry.filter_map_token (tokens : List (Located Token)) :
    (tokens.map LogEntry.token).filter (·.detail = .trace) = tokens.map .token :=
  List.filter_eq_self.2 (by simp [LogEntry.detail])

/-- An evaluation that comes to a value has pulled all there is. -/
lemma pulled_of_evaluateWithin_eq_ok {maxDepth : Nat} {input : String} {value : Int}
    (h : evaluateWithin maxDepth input = .ok value) :
    (∃ offset, (TokenStream.ofString input).ending = .endOfInput offset)
      ∧ (Evaluation.outcome maxDepth (.ofString input)).pulled
        = (TokenStream.ofString input).trace := by
  rw [evaluateWithin] at h
  rw [Evaluation.outcome_eq_course (TokenStream.plain_ofString input)] at h ⊢
  exact Machine.Configuration.pulled_course_of_ok h

/-- One that fails breaks off where it has pulled so much. -/
lemma breaksOff_of_evaluateWithin_eq_error {maxDepth : Nat} {input : String}
    {error : EvaluationError} (h : evaluateWithin maxDepth input = .error error) :
    Machine.Configuration.BreaksOff maxDepth .initial (.ofString input) error
      (Evaluation.outcome maxDepth (.ofString input)).pulled := by
  rw [evaluateWithin] at h
  rw [Evaluation.outcome_eq_course (TokenStream.plain_ofString input)] at h ⊢
  obtain ⟨pulled, hpulled, hbreaks⟩ := Machine.Configuration.breaksOff_of_course h
  rw [hpulled]
  exact hbreaks

/-- The log of an evaluation that comes to a value ends with it. -/
lemma evaluationLog_of_ok {maxDepth : Nat} {input : String} {value : Int}
    (h : evaluateWithin maxDepth input = .ok value) :
    evaluationLog maxDepth input
      = (Evaluation.outcome maxDepth (.ofString input)).pulled.map .token
        ++ [.evaluated input value] := by
  rw [evaluateWithin] at h
  simp only [evaluationLog, h]

/-- That of one that fails has nothing but traces. -/
lemma evaluationLog_of_error {maxDepth : Nat} {input : String} {error : EvaluationError}
    (h : evaluateWithin maxDepth input = .error error) :
    evaluationLog maxDepth input
      = (Evaluation.outcome maxDepth (.ofString input)).pulled.map .token := by
  rw [evaluateWithin] at h
  simp only [evaluationLog, h]

/-- **The log of an evaluation shows what was pulled.** Its traces are a beginning of all that can
be pulled off the tokens of the input, each once.  If the evaluation comes to a value, they are all
of it, up to the end of the input, and the value follows with the input as it is written.  If it
fails, nothing follows, and the last token traced is the one that the error is about, or the one
after the right operand of the operation that fails; before a lexical error all tokens are traced.
-/
theorem evaluationLog_traces (maxDepth : Nat) (input : String) :
    (TokenStream.ofString input).Renders input
      ∧ ∃ pulled : List (Located Token),
        (evaluationLog maxDepth input).filter (·.detail = .trace) = pulled.map .token
        ∧ pulled <+: (TokenStream.ofString input).trace
        ∧ (pulled.Pairwise fun a b => a.offset < b.offset)
        ∧ (∀ value, evaluateWithin maxDepth input = .ok value →
            (∃ tokens, tokenize input = .ok tokens ∧ (∀ token ∈ tokens, token.value ≠ .endOfInput)
              ∧ pulled = tokens ++ [⟨.endOfInput, input.utf8ByteSize⟩])
            ∧ evaluationLog maxDepth input = pulled.map .token ++ [.evaluated input value]
            ∧ (LogEntry.evaluated input value).detail = .debug
            ∧ (LogEntry.evaluated input value).message
              = "evaluated \"" ++ input ++ "\" to " ++ Decimal.ofInt value)
        ∧ ∀ error, evaluateWithin maxDepth input = .error error →
            evaluationLog maxDepth input = pulled.map .token
            ∧ (∀ entry ∈ evaluationLog maxDepth input, entry.detail = .trace)
            ∧ error.LastPulled (.ofString input) pulled := by
  have hrenders := TokenStream.renders_ofString input
  have hpairwise := TokenStream.pairwise_trace (TokenStream.offsets_ofString input)
  refine ⟨hrenders, (Evaluation.outcome maxDepth (.ofString input)).pulled, ?_⟩
  cases hresult : evaluateWithin maxDepth input with
  | ok value =>
      obtain ⟨⟨offset, hending⟩, hpulled⟩ := pulled_of_evaluateWithin_eq_ok hresult
      rw [TokenStream.Renders, hending] at hrenders
      obtain ⟨htokens, rfl⟩ := hrenders
      have htrace : (TokenStream.ofString input).trace
          = (TokenStream.ofString input).tokens ++ [⟨.endOfInput, input.utf8ByteSize⟩] := by
        rw [TokenStream.trace, hending]
      have hquoted : Quoted.text input = "\"" ++ input ++ "\"" := by
        rw [TokenStream.ofString_eq] at hending
        exact Quoted.text_of_mem_alphabet ((Cursor.start input).mem_alphabet_of_ending _ hending)
      rw [evaluationLog_of_ok hresult]
      refine ⟨?_, hpulled ▸ List.prefix_refl _, hpulled ▸ hpairwise, ?_, by rintro _ ⟨⟩⟩
      · rw [List.filter_append, LogEntry.filter_map_token]
        exact List.append_nil _
      · rintro _ ⟨⟩
        refine ⟨⟨_, htokens, TokenStream.plain_ofString input, hpulled.trans htrace⟩, rfl, rfl, ?_⟩
        rw [LogEntry.message, hquoted, ← String.toList_inj]
        simp
  | error error =>
      have hbreaks := breaksOff_of_evaluateWithin_eq_error hresult
      rw [evaluationLog_of_error hresult]
      refine ⟨LogEntry.filter_map_token _, hbreaks.prefix_trace,
        hpairwise.sublist hbreaks.prefix_trace.sublist, by rintro _ ⟨⟩, ?_⟩
      rintro _ ⟨⟩
      refine ⟨rfl, ?_, hbreaks.lastPulled⟩
      intro entry hentry
      obtain ⟨token, -, rfl⟩ := List.mem_map.1 hentry
      rfl

end Calculator
