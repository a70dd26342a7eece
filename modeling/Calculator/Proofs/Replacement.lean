import Mathlib.Tactic.Common
import Calculator.Proofs.Embedding
import Calculator.Proofs.Limit
import Calculator.Proofs.Ranges

/-!
# Replacing a factor

In any text, a factor can be replaced by another one with the same value.  The text around it need
not be an expression, it need not even have tokens: the result is the same value, or an error of the
same kind.

What comes before the factor is read in the same way.  Then there are two cases.

* **An operand is wanted.**  The machine reads the one factor or the other and holds the same value;
  what comes after has the same tokens, only in other places, and these have no say in the kind of
  an error (`Configuration.outcome_kind_congr`).
* **An operand is held.**  What waits for it may fail, and if it does not, the first token of either
  factor is out of order (`Configuration.exists_kind_of_take`).

So a group can be replaced by the numeral of its value: `evaluateWithin_group`.
-/

namespace Calculator

/-- The kind of an error, whatever else it says. -/
def EvaluationError.kind (error : EvaluationError) : Fault.Kind :=
  error.value.kind

/-! ## What comes after the factor -/

/-- Texts that stand in different places have the same tokens, if their places are forgotten. -/
lemma Cursor.stream_forget (text : List Char) (position position' : Nat) :
    (stream ⟨position, text⟩).relocate (fun _ => 0)
      = (stream ⟨position', text⟩).relocate fun _ => 0 := by
  have hmoved : ∀ distance, stream ⟨distance, text⟩
      = (stream ⟨0, text⟩).relocate (· + distance) := by
    intro distance
    have hstream := stream_relocate ⟨0, text⟩ distance
    rwa [Nat.zero_add] at hstream
  rw [hmoved position, hmoved position', TokenStream.relocate_relocate,
    TokenStream.relocate_relocate]
  rfl

namespace Machine.Configuration

variable {limit : Nat}

/-- **Where the tokens stand has no say in the kind of an error.** -/
lemma outcome_kind_congr (c : Configuration) {stream stream' : TokenStream}
    (h : (stream.relocate fun _ => 0) = stream'.relocate fun _ => 0) :
    (c.outcome limit stream).mapError EvaluationError.kind
      = (c.outcome limit stream').mapError EvaluationError.kind := by
  have hforget : ∀ stream : TokenStream, (c.outcome limit stream).mapError EvaluationError.kind
      = ((c.relocate fun _ => 0).outcome limit (stream.relocate fun _ => 0)).mapError
          EvaluationError.kind := by
    intro stream
    rw [outcome_relocate]
    cases c.outcome limit stream <;> rfl
  rw [hforget, hforget, h]

/-! ## The factor -/

/-- **Where an operand is held, the tokens that neither go on with the expression nor close a group
are refused alike**: what waits fails, or else each of them is out of order. -/
lemma exists_kind_of_take (limit : Nat) (top : Frame) (outer : List Frame) (operand : Int) :
    ∃ kind, ∀ token : Located Token, (∀ level, token.value.operatorAt? level = none) →
      token.value ≠ .rightParen → ∃ error,
        take limit ⟨top, outer, some operand⟩ token = .error error ∧ error.kind = kind := by
  cases hterm : settle top.multiplicative? operand with
  | error error =>
      refine ⟨error.kind, fun token _ _ => ⟨error, ?_, rfl⟩⟩
      simp only [take, hold, hterm, error_bind]
  | ok term =>
      cases hvalue : settle top.additive? term with
      | error error =>
          refine ⟨error.kind, fun token hop _ => ⟨error, ?_, rfl⟩⟩
          simp only [take, hold, factorOperator?_eq, termOperator?_eq, hterm, ok_bind, hop, hvalue,
            error_bind]
      | ok value =>
          refine ⟨.syntactic, fun token hop hparen => ?_⟩
          simp only [take, hold, factorOperator?_eq, termOperator?_eq, hterm, ok_bind, hop, hvalue]
          cases outer with
          | nil => exact ⟨_, rfl, rfl⟩
          | cons below outer => exact ⟨_, if_neg hparen, rfl⟩

end Machine.Configuration

/-- A factor begins with such a token. -/
lemma Tree.exists_first (tree : Tree .factor) :
    ∃ first rest, tree.tokens = first :: rest ∧ (∀ level, first.value.operatorAt? level = none)
      ∧ first.value ≠ .rightParen := by
  cases tree with
  | number value offset => exact ⟨_, _, rfl, fun _ => rfl, nofun⟩
  | group opening inner closing => exact ⟨_, _, rfl, fun _ => rfl, nofun⟩

namespace Machine.Configuration

variable {limit : Nat}

/-- **A configuration does not tell apart factors with the same value**, if there is room for
both. -/
lemma outcome_factor_congr (c : Configuration) {tree tree' : Tree .factor} {value : Int}
    (hyields : tree.Yields value) (hyields' : tree'.Yields value)
    (hroom : c.outer.length + tree.depth ≤ limit) (hroom' : c.outer.length + tree'.depth ≤ limit)
    {after after' : TokenStream}
    (hafter : (after.relocate fun _ => 0) = after'.relocate fun _ => 0) :
    (c.outcome limit ⟨tree.tokens ++ after.tokens, after.ending⟩).mapError EvaluationError.kind
      = (c.outcome limit ⟨tree'.tokens ++ after'.tokens, after'.ending⟩).mapError
          EvaluationError.kind := by
  rcases c with ⟨top, outer, _ | operand⟩
  · have hreads := reads_tree limit after.ending tree top outer after.tokens trivial hroom trivial
    have hreads' :=
      reads_tree limit after'.ending tree' top outer after'.tokens trivial hroom' trivial
    rw [hreads, hreads', Tree.compute_eq_ok_iff.2 hyields, Tree.compute_eq_ok_iff.2 hyields',
      ok_bind, ok_bind]
    exact outcome_kind_congr _ hafter
  · obtain ⟨kind, hkind⟩ := exists_kind_of_take limit top outer operand
    obtain ⟨first, rest, htokens, hfirst, hparen⟩ := tree.exists_first
    obtain ⟨first', rest', htokens', hfirst', hparen'⟩ := tree'.exists_first
    obtain ⟨error, htake, herror⟩ := hkind first hfirst hparen
    obtain ⟨error', htake', herror'⟩ := hkind first' hfirst' hparen'
    rw [htokens, htokens', List.cons_append, List.cons_append, outcome_cons, outcome_cons, htake,
      htake', error_bind, error_bind, Except.mapError, Except.mapError, herror, herror']

end Machine.Configuration

/-! ## The text -/

/-- The text stands between the two others as the factor: it is made of the tokens of this, and no
run of digits goes across its borders. -/
structure StandsAs (tree : Tree .factor) (front text back : String) : Prop where
  tokenizes : Tokenizes front.utf8ByteSize text tree.tokens
  front_seam : ¬BetweenDigits front.toList (text ++ back).toList
  back_seam : ¬BetweenDigits text.toList back.toList

/-- The tokens of a text in which a factor stands. -/
lemma StandsAs.ofString_eq {tree : Tree .factor} {front text back : String}
    (h : StandsAs tree front text back) :
    TokenStream.ofString (front ++ text ++ back)
      = (TokenStream.ofString front).append
        ⟨tree.tokens ++ (Cursor.stream
            ⟨front.utf8ByteSize + text.utf8ByteSize, back.toList⟩).tokens,
          (Cursor.stream ⟨front.utf8ByteSize + text.utf8ByteSize, back.toList⟩).ending⟩ := by
  rw [String.append_assoc, TokenStream.ofString_append h.front_seam, String.toList_append,
    h.tokenizes.stream_append h.back_seam]

/-- **Factors with the same value can be replaced by each other**, whatever stands around them. -/
theorem StandsAs.evaluateWithin_congr {limit : Nat} {front back text text' : String}
    {tree tree' : Tree .factor} {value : Int} (h : StandsAs tree front text back)
    (h' : StandsAs tree' front text' back) (hyields : tree.Yields value)
    (hyields' : tree'.Yields value) (hroom : front.utf8ByteSize + tree.depth ≤ limit)
    (hroom' : front.utf8ByteSize + tree'.depth ≤ limit) :
    (evaluateWithin limit (front ++ text ++ back)).mapError EvaluationError.kind
      = (evaluateWithin limit (front ++ text' ++ back)).mapError EvaluationError.kind := by
  have hsize := Cursor.length_tokens_stream (Cursor.start front)
  rw [evaluateWithin_eq_outcome, evaluateWithin_eq_outcome, h.ofString_eq, h'.ofString_eq]
  rw [← TokenStream.ofString_eq, Cursor.start, byteLength_toList] at hsize
  generalize TokenStream.ofString front = first at *
  rcases first with ⟨before, end' | failure⟩
  -- no more groups can be open after the first text than it has bytes, so both factors have room
  · simp only [TokenStream.append]
    rw [Machine.Configuration.outcome_append_eq, Machine.Configuration.outcome_append_eq]
    cases hreads : Machine.Configuration.initial.advance limit before with
    | error error => rfl
    | ok c =>
        have hopen : c.outer.length ≤ front.utf8ByteSize :=
          Nat.le_trans (Machine.Configuration.length_outer_le hreads) hsize
        exact c.outcome_factor_congr hyields hyields'
          (Nat.le_trans (Nat.add_le_add_right hopen _) hroom)
          (Nat.le_trans (Nat.add_le_add_right hopen _) hroom') (Cursor.stream_forget _ _ _)
  · rfl

/-! ## Groups and numerals -/

/-- Parentheses set a text apart. -/
lemma exists_standsAs_group {limit : Nat} {text : String} {value : Int}
    (h : evaluateWithin limit text = .ok value) (front back : String) :
    ∃ tree, StandsAs tree front ("(" ++ text ++ ")") back ∧ tree.Yields value := by
  obtain ⟨tree, htext, -, hyields⟩ := exists_group h front.utf8ByteSize .factor
  have hleft : Token.leftParen.IsSymbol := trivial
  have hright : Token.rightParen.IsSymbol := trivial
  refine ⟨tree, ⟨htext, ?_, hright.not_betweenDigits_left ("(" ++ text) _⟩, hyields⟩
  rw [String.append_assoc, String.append_assoc]
  exact hleft.not_betweenDigits_right _ _

/-- Spaces do, too. -/
lemma standsAs_numeral {value : Int} (h : (Token.number value).Readable) (front back : String) :
    StandsAs (.number value (front.utf8ByteSize + 1)) front (" " ++ Decimal.ofInt value ++ " ")
      back := by
  have hreadable : ∀ piece ∈ [Spaced.mk 1 (.number value)], piece.token.Readable :=
    List.forall_mem_singleton.2 h
  refine ⟨Tokenizes.print hreadable (List.isChain_singleton _) 1 _, ?_, ?_⟩
  · refine not_betweenDigits_of_head? ?_ _
    simp [String.toList_append]
  · refine not_betweenDigits_of_getLast? ?_ _
    have hspace : " ".toList = [' '] := rfl
    rw [String.toList_append, hspace, List.getLast?_concat]
    rintro c ⟨⟩
    rfl

/-- **A group can be replaced by its value.**  If the text in the parentheses has a value that is not
negative, then with the numeral of this value between two spaces instead of the group, the whole
text has the same value or fails with an error of the same kind.  That is so whatever comes before
and after, as long as the limit on nesting is not less than the length of the text. -/
theorem evaluateWithin_group {limit : Nat} {a b c : String} {value : Int}
    (h : evaluateWithin limit b = .ok value) (hvalue : 0 ≤ value)
    (hlimit : (a ++ "(" ++ b ++ ")" ++ c).utf8ByteSize ≤ limit) :
    (evaluateWithin limit (a ++ "(" ++ b ++ ")" ++ c)).mapError EvaluationError.kind
      = (evaluateWithin limit (a ++ " " ++ Decimal.ofInt value ++ " " ++ c)).mapError
          EvaluationError.kind := by
  have hassoc : ∀ first middle last : String,
      a ++ first ++ middle ++ last ++ c = a ++ (first ++ middle ++ last) ++ c := by
    intro first middle last
    simp only [String.append_assoc]
  obtain ⟨tree, hgroup, hyields⟩ := exists_standsAs_group h a c
  have hreadable : (Token.number value).Readable := ⟨hvalue, (inRange_of_evaluateWithin h).2⟩
  have hnumeral := standsAs_numeral hreadable a c
  have hdepth : tree.depth ≤ ("(" ++ b ++ ")").utf8ByteSize :=
    Nat.le_trans tree.depth_le_length hgroup.tokenizes.length_le
  rw [hassoc] at hlimit
  rw [hassoc, hassoc]
  simp only [String.utf8ByteSize_append] at hlimit hdepth
  have hroom : a.utf8ByteSize + tree.depth ≤ limit := by omega
  have hroom' : a.utf8ByteSize ≤ limit := by omega
  exact hgroup.evaluateWithin_congr hnumeral hyields rfl hroom hroom'

/-- In `2*((1)+2)/0)@` the group is `3`, and without it too there is a division by zero before the
parenthesis that is too many and the character that is unknown. -/
theorem evaluateWithin_group_division :
    (evaluateWithin 13 "2*((1)+2)/0)@").mapError EvaluationError.kind = .error .divisionByZero
      ∧ (evaluateWithin 13 "2* 3 /0)@").mapError EvaluationError.kind
        = .error .divisionByZero := by
  have htext : "2*" ++ "(" ++ "(1)+2" ++ ")" ++ "/0)@" = "2*((1)+2)/0)@" := rfl
  have htext' : "2*" ++ " " ++ Decimal.ofInt 3 ++ " " ++ "/0)@" = "2* 3 /0)@" := by decide +kernel
  have hb : evaluateWithin 13 "(1)+2" = .ok 3 := by
    have hstream : TokenStream.ofString "(1)+2"
        = ⟨[⟨.leftParen, 0⟩, ⟨.number 1, 1⟩, ⟨.rightParen, 2⟩, ⟨.operator .add, 3⟩, ⟨.number 2, 4⟩],
          .endOfInput 5⟩ := by decide +kernel
    rw [evaluateWithin_eq_outcome, hstream]
    rfl
  have hstream : TokenStream.ofString "2* 3 /0)@"
      = ⟨[⟨.number 2, 0⟩, ⟨.operator .mul, 1⟩, ⟨.number 3, 3⟩, ⟨.operator .div, 5⟩, ⟨.number 0, 6⟩,
          ⟨.rightParen, 7⟩], .failure ⟨.unrecognizedCharacter '@', 8⟩⟩ := by decide +kernel
  have h : (evaluateWithin 13 "2* 3 /0)@").mapError EvaluationError.kind
      = .error .divisionByZero := by
    rw [evaluateWithin_eq_outcome, hstream]
    rfl
  have hlimit : ("2*" ++ "(" ++ "(1)+2" ++ ")" ++ "/0)@").utf8ByteSize ≤ 13 := by decide +kernel
  have hgroup := evaluateWithin_group hb (by decide) hlimit
  rw [htext, htext', h] at hgroup
  exact ⟨hgroup, h⟩

end Calculator
