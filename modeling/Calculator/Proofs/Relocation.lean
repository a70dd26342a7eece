import Mathlib.Tactic.Common
import Calculator.Proofs.Concatenation
import Calculator.Proofs.Descent

/-!
# Tokens in other places

An evaluation does not depend on where the tokens stand.  If they are moved, the error is moved with
them, and all else that it says stays as it is.

* **Streams**: `Cursor.stream_relocate` says that the stream of a text moves with the text.
* **Trees**: a derivation can be moved with its tokens, `Tree.tokens_relocate`, and keeps its value.
* **The machine**: `Configuration.take_relocate` moves one step, `Configuration.outcome_relocate` a
  whole run.
* **Spaces**: to put spaces into a text moves what comes after them, `evaluateWithin_spaces`.
-/

namespace Calculator

/-- The same value in another place. -/
def Located.relocate {α : Type} (f : Nat → Nat) (x : Located α) : Located α :=
  ⟨x.value, f x.offset⟩

@[simp]
lemma Located.value_relocate {α : Type} (f : Nat → Nat) (x : Located α) :
    (x.relocate f).value = x.value := rfl

@[simp]
lemma Located.offset_relocate {α : Type} (f : Nat → Nat) (x : Located α) :
    (x.relocate f).offset = f x.offset := rfl

/-! ## Streams -/

/-- An ending in another place. -/
def Ending.relocate (f : Nat → Nat) : Ending → Ending
  | .endOfInput offset => .endOfInput (f offset)
  | .failure error => .failure (error.relocate f)

namespace TokenStream

/-- A stream in other places. -/
def relocate (f : Nat → Nat) (stream : TokenStream) : TokenStream :=
  ⟨stream.tokens.map (Located.relocate f), stream.ending.relocate f⟩

/-- It matters only where the offsets of the stream are moved to. -/
lemma relocate_congr {f g : Nat → Nat} {stream : TokenStream}
    (h : ∀ offset ∈ stream.offsets, f offset = g offset) :
    stream.relocate f = stream.relocate g := by
  have htokens : stream.tokens.map (Located.relocate f)
      = stream.tokens.map (Located.relocate g) := by
    refine List.map_congr_left fun token hmem => congrArg (Located.mk token.value) ?_
    exact h _ (List.mem_append_left _ (List.mem_map_of_mem hmem))
  have hoffset : f stream.ending.offset = g stream.ending.offset :=
    h _ (List.mem_append_right _ (List.mem_singleton_self _))
  have hending : stream.ending.relocate f = stream.ending.relocate g := by
    cases hending : stream.ending with
    | endOfInput offset =>
        rw [hending] at hoffset
        exact congrArg Ending.endOfInput hoffset
    | failure error =>
        rw [hending] at hoffset
        exact congrArg (fun o => Ending.failure ⟨error.value, o⟩) hoffset
  rw [relocate, relocate, htokens, hending]

/-- To move a stream twice is to move it once. -/
lemma relocate_relocate (f g : Nat → Nat) (stream : TokenStream) :
    (stream.relocate f).relocate g = stream.relocate (g ∘ f) := by
  rcases stream with ⟨tokens, _ | _⟩ <;> simp [relocate, Ending.relocate, Located.relocate]

/-- What stands in front can stay where it is. -/
lemma relocate_append {f : Nat → Nat} {first : TokenStream}
    (htokens : ∀ token ∈ first.tokens, f token.offset = token.offset)
    (herror : ∀ error, first.ending = .failure error → f error.offset = error.offset)
    (second : TokenStream) :
    (first.append second).relocate f = first.append (second.relocate f) := by
  have hfront : first.tokens.map (Located.relocate f) = first.tokens := by
    refine (List.map_congr_left fun token hmem => ?_).trans (List.map_id _)
    exact congrArg (Located.mk token.value) (htokens token hmem)
  cases hending : first.ending with
  | endOfInput offset => simp only [append, hending, relocate, List.map_append, hfront]
  | failure error =>
      have hfixed : error.relocate f = error := congrArg (Located.mk _) (herror error hending)
      simp only [append, hending, relocate, hfront, Ending.relocate, hfixed]
      rw [← hending]

/-- The tokens are collected in their new places. -/
lemma collect_relocate (f : Nat → Nat) (stream : TokenStream) :
    (stream.relocate f).collect
      = (stream.collect.map (List.map (Located.relocate f))).mapError (Located.relocate f) := by
  rcases stream with ⟨tokens, _ | _⟩ <;> rfl

end TokenStream

namespace Cursor

/-- A text that stands further on is cut in the same way. -/
lemma scan_relocate {cursor after : Cursor} {lexeme : Lexeme}
    (h : cursor.scan = some (lexeme, after)) (distance : Nat) :
    scan ⟨cursor.position + distance, cursor.rest⟩
      = some ({ lexeme with start := lexeme.start + distance },
          ⟨after.position + distance, after.rest⟩) := by
  obtain ⟨blank, hblank, hwhole, hrest, hstart, hstop⟩ := scan_eq_some_iff.1 h
  refine scan_eq_some_iff.2 ⟨blank, hblank, ⟨hwhole.not_isSpace, hwhole.digits, hwhole.single⟩,
    hrest, ?_, ?_⟩
  · show lexeme.start + distance = cursor.position + distance + _
    omega
  · show after.position + distance = lexeme.start + distance + byteLength lexeme.text
    rw [hstop, Lexeme.stop]
    omega

/-- **A text that stands further on has the same tokens**, each that much further on. -/
theorem stream_relocate (cursor : Cursor) (distance : Nat) :
    stream ⟨cursor.position + distance, cursor.rest⟩
      = cursor.stream.relocate (· + distance) := by
  refine stream_induction (motive := fun cursor stream =>
    Cursor.stream ⟨cursor.position + distance, cursor.rest⟩ = stream.relocate (· + distance))
    ?_ ?_ ?_ cursor
  · intro cursor hscan
    have hblank := scan_eq_none_iff.1 hscan
    have hscan' : scan ⟨cursor.position + distance, cursor.rest⟩ = none :=
      scan_eq_none_iff.2 hblank
    rw [stream_of_scan_eq_none hscan', position_of_scan_eq_none hscan']
    show _ = TokenStream.mk [] (.endOfInput (cursor.skipSpaces.position + distance))
    rw [position_of_scan_eq_none hscan]
    simp only [Nat.add_right_comm]
  · intro cursor lexeme after fault hscan hread
    exact stream_of_read_eq_error (scan_relocate hscan distance) hread
  · intro cursor lexeme after token hscan hread ih
    rw [stream_of_read_eq_ok (scan_relocate hscan distance) hread, ih]
    rfl

end Cursor

/-! ## Trees -/

namespace Tree

/-- A tree whose tokens stand in other places. -/
def relocate (f : Nat → Nat) : {notion : Notion} → Tree notion → Tree notion
  | _, .number value offset => .number value (f offset)
  | _, .group opening inner closing => .group (f opening) (inner.relocate f) (f closing)
  | _, .factor only => .factor (only.relocate f)
  | _, .product left op binds offset right =>
    .product (left.relocate f) op binds (f offset) (right.relocate f)
  | _, .term only => .term (only.relocate f)
  | _, .sum left op binds offset right =>
    .sum (left.relocate f) op binds (f offset) (right.relocate f)

variable (f : Nat → Nat) {notion : Notion} (tree : Tree notion)

lemma tokens_relocate : (tree.relocate f).tokens = tree.tokens.map (Located.relocate f) := by
  induction tree with
  | number value offset => rfl
  | group opening inner closing ih => simp [relocate, tokens, ih, Located.relocate]
  | factor only ih => exact ih
  | product left op binds offset right ihl ihr =>
      simp [relocate, tokens, ihl, ihr, Located.relocate]
  | term only ih => exact ih
  | sum left op binds offset right ihl ihr =>
      simp [relocate, tokens, ihl, ihr, Located.relocate]

lemma depth_relocate : (tree.relocate f).depth = tree.depth := by
  induction tree with
  | number value offset => rfl
  | group opening inner closing ih => exact congrArg (· + 1) ih
  | factor only ih => exact ih
  | product left op binds offset right ihl ihr => exact congrArg₂ max ihl ihr
  | term only ih => exact ih
  | sum left op binds offset right ihl ihr => exact congrArg₂ max ihl ihr

/-- The places have no say in the value. -/
lemma yields_relocate {value : Int} : (tree.relocate f).Yields value ↔ tree.Yields value := by
  induction tree generalizing value with
  | number n offset => rfl
  | group opening inner closing ih => exact ih
  | factor only ih => exact ih
  | product left op binds offset right ihl ihr => simp only [relocate, Yields, ihl, ihr]
  | term only ih => exact ih
  | sum left op binds offset right ihl ihr => simp only [relocate, Yields, ihl, ihr]

end Tree

/-! ## The machine -/

/-- Where an operator stands says only where its error is. -/
lemma Operator.apply_relocate (op : Operator) (left right : Int) (f : Nat → Nat) (offset : Nat) :
    op.apply left right (f offset)
      = (op.apply left right offset).mapError (Located.relocate f) := by
  rw [apply, apply]
  split
  · rfl
  · split <;> rfl

namespace Machine

def Pending.relocate (f : Nat → Nat) (pending : Pending) : Pending :=
  { pending with offset := f pending.offset }

def Frame.relocate (f : Nat → Nat) (frame : Frame) : Frame :=
  ⟨frame.additive?.map (Pending.relocate f), frame.multiplicative?.map (Pending.relocate f)⟩

/-- A configuration whose operations wait in other places. -/
def Configuration.relocate (f : Nat → Nat) (c : Configuration) : Configuration :=
  ⟨c.top.relocate f, c.outer.map (Frame.relocate f), c.operand?⟩

variable (f : Nat → Nat)

lemma settle_relocate (pending? : Option Pending) (right : Int) :
    settle (pending?.map (Pending.relocate f)) right
      = (settle pending? right).mapError (Located.relocate f) := by
  cases pending? with
  | none => rfl
  | some pending =>
      rw [Option.map_some, settle_some, settle_some, Pending.relocate, Operator.apply_relocate]
      cases pending.op.apply pending.left right pending.offset <;> rfl

namespace Configuration

lemma want_relocate (limit : Nat) (top : Frame) (outer : List Frame) (token : Located Token) :
    want limit (top.relocate f) (outer.map (Frame.relocate f)) (token.relocate f)
      = ((want limit top outer token).map (relocate f)).mapError (Located.relocate f) := by
  rcases token with ⟨_ | _ | _ | _ | _, offset⟩
  case leftParen =>
    simp only [want, Located.value_relocate, Located.offset_relocate, List.length_map]
    split <;> rfl
  all_goals rfl

/-- What is made of the value of an operation does the same in other places if it does so for every
value. -/
lemma bind_relocate (x : Except EvaluationError Int)
    {next next' : Int → Except EvaluationError Configuration}
    (h : ∀ value, next' value = ((next value).map (relocate f)).mapError (Located.relocate f)) :
    (x.mapError (Located.relocate f) >>= next')
      = ((x >>= next).map (relocate f)).mapError (Located.relocate f) := by
  cases x with
  | ok value => exact h value
  | error error => rfl

lemma hold_relocate (top : Frame) (outer : List Frame) (operand : Int) (token : Located Token) :
    hold (top.relocate f) (outer.map (Frame.relocate f)) operand (token.relocate f)
      = ((hold top outer operand token).map (relocate f)).mapError (Located.relocate f) := by
  simp only [hold, Frame.relocate, settle_relocate, Located.value_relocate,
    Located.offset_relocate]
  refine bind_relocate f _ fun term => ?_
  cases factorOperator? token.value with
  | some op => rfl
  | none =>
      refine bind_relocate f _ fun value => ?_
      cases termOperator? token.value with
      | some op => rfl
      | none =>
          cases outer with
          | nil => rfl
          | cons below outer =>
              by_cases hparen : token.value = .rightParen
              · simp only [List.map_cons, hparen, if_true]
                rfl
              · simp only [List.map_cons, hparen, if_false]
                rfl

/-- **A step does the same in other places.** -/
theorem take_relocate (limit : Nat) (c : Configuration) (token : Located Token) :
    (c.relocate f).take limit (token.relocate f)
      = ((c.take limit token).map (relocate f)).mapError (Located.relocate f) := by
  rcases c with ⟨top, outer, _ | operand⟩
  · exact want_relocate f limit top outer token
  · exact hold_relocate f top outer operand token

lemma finish_relocate (c : Configuration) (offset : Nat) :
    (c.relocate f).finish (f offset) = (c.finish offset).mapError (Located.relocate f) := by
  rcases c with ⟨top, outer, _ | operand⟩
  · rfl
  · simp only [finish, relocate, Frame.relocate, settle_relocate]
    cases settle top.multiplicative? operand with
    | error error => rfl
    | ok term =>
        simp only [Except.mapError, ok_bind]
        cases settle top.additive? term with
        | error error => rfl
        | ok value => cases outer <;> rfl

/-- **So does a whole run.** -/
theorem outcome_relocate (limit : Nat) (c : Configuration) (stream : TokenStream) :
    (c.relocate f).outcome limit (stream.relocate f)
      = (c.outcome limit stream).mapError (Located.relocate f) := by
  rcases stream with ⟨tokens, ending⟩
  induction tokens generalizing c with
  | nil =>
      cases ending with
      | endOfInput offset => exact finish_relocate f c offset
      | failure error => rfl
  | cons token tokens ih =>
      show outcome limit (c.relocate f) ⟨token.relocate f :: _, _⟩ = _
      rw [outcome_cons, outcome_cons, take_relocate]
      cases c.take limit token with
      | error error => rfl
      | ok next => exact ih next

end Configuration
end Machine

/-! ## Spaces -/

/-- So many spaces. -/
def spaces (count : Nat) : String :=
  String.ofList (List.replicate count ' ')

lemma byteLength_replicate (count : Nat) : byteLength (List.replicate count ' ') = count := by
  induction count with
  | zero => rfl
  | succ count ih =>
      rw [List.replicate_succ, byteLength_cons, ih]
      exact Nat.add_comm 1 count

lemma isSpace_of_mem_replicate {count : Nat} {c : Char} (h : c ∈ List.replicate count ' ') :
    isSpace c := by
  rw [List.eq_of_mem_replicate h]
  rfl

/-- Where a byte comes to stand if so many bytes are put in at a place before or after it. -/
def shiftFrom (place count offset : Nat) : Nat :=
  if offset < place then offset else offset + count

/-- **The stream of a text with spaces put in** is that of the text, and what stands after them is
that much further on. -/
theorem TokenStream.ofString_spaces {front back : String}
    (h : ¬BetweenDigits front.toList back.toList) (count : Nat) :
    ofString (front ++ spaces count ++ back)
      = (ofString (front ++ back)).relocate (shiftFrom front.utf8ByteSize count) := by
  have htext : (spaces count ++ back).toList = List.replicate count ' ' ++ back.toList := by
    rw [String.toList_append, spaces, String.toList_ofList]
  have hseam : ¬BetweenDigits front.toList (spaces count ++ back).toList := by
    rw [htext]
    cases count with
    | zero => exact h
    | succ count =>
        rintro ⟨c, -, d, ⟨⟩, -, hd⟩
        exact absurd hd (by decide)
  -- the tokens in front are not moved, for they stand before the spaces, and those behind are
  obtain ⟨htokens, hfailure⟩ := offset_lt_ofString front
  have hafter := (Cursor.offsets_stream ⟨front.utf8ByteSize, back.toList⟩).2
  rw [String.append_assoc, ofString_append hseam, ofString_append h, htext,
    Cursor.stream_append_of_isSpace _ (fun c => isSpace_of_mem_replicate), byteLength_replicate,
    Cursor.stream_relocate ⟨front.utf8ByteSize, back.toList⟩ count,
    relocate_append (fun token hmem => if_pos (htokens token hmem))
      (fun error hending => if_pos (hfailure error hending))]
  refine congrArg _ (relocate_congr fun offset hmem => ?_)
  exact (if_neg (Nat.not_lt.2 (hafter offset hmem))).symm

/-- **Spaces mean nothing.**  If spaces are put into an input, anywhere but between two digits, its
value and its tokens stay the same; only where these stand, or the error does, is shifted. -/
theorem evaluateWithin_spaces (maxDepth count : Nat) {front back : String}
    (h : ¬BetweenDigits front.toList back.toList) :
    evaluateWithin maxDepth (front ++ spaces count ++ back)
        = (evaluateWithin maxDepth (front ++ back)).mapError
            (Located.relocate (shiftFrom front.utf8ByteSize count))
      ∧ tokenize (front ++ spaces count ++ back)
        = ((tokenize (front ++ back)).map
            (List.map (Located.relocate (shiftFrom front.utf8ByteSize count)))).mapError
              (Located.relocate (shiftFrom front.utf8ByteSize count)) := by
  have hstream := TokenStream.ofString_spaces h count
  constructor
  · rw [evaluateWithin_eq_outcome, evaluateWithin_eq_outcome, hstream]
    exact Machine.Configuration.outcome_relocate _ maxDepth .initial _
  · rw [tokenize_eq, tokenize_eq, hstream, TokenStream.collect_relocate]

/-- In `1/0+@` two spaces before the last character move the lexical error of the tokens, but not
the division by zero. -/
theorem evaluateWithin_spaces_after_operator :
    evaluateWithin 0 ("1/0+" ++ spaces 2 ++ "@") = .error ⟨.runtime .divisionByZero, 1⟩
      ∧ tokenize ("1/0+" ++ spaces 2 ++ "@") = .error ⟨.unrecognizedCharacter '@', 6⟩ := by
  have htext : "1/0+" ++ "@" = "1/0+@" := rfl
  have hstream : TokenStream.ofString "1/0+@"
      = ⟨[⟨.number 1, 0⟩, ⟨.operator .div, 1⟩, ⟨.number 0, 2⟩, ⟨.operator .add, 3⟩],
        .failure ⟨.unrecognizedCharacter '@', 4⟩⟩ := by decide +kernel
  have hseam : ¬BetweenDigits "1/0+".toList "@".toList := by decide +kernel
  obtain ⟨hvalue, htokens⟩ := evaluateWithin_spaces 0 2 hseam
  rw [hvalue, htokens, htext, evaluateWithin_eq_outcome, tokenize_eq, hstream]
  exact ⟨rfl, rfl⟩

end Calculator
