import Mathlib.Tactic.Common
import Calculator.Proofs.Lexemes

/-!
# Calls of a reader

A reader can be called in two ways, and the calls may come in any order.  What they are answered is
settled by two things: the **elements** of the token stream, which are its tokens and then its
ending for ever, and the **history** of the answers given before.

* **One element**, `Reader.nextToken_eq`: reading takes the first element off what is ahead.  Of an
  ending that leaves the ending; an error is kept by the reader, `Reader.Step.failed_eq`.
* **One call**, `Reader.Agrees.call`: if a reader agrees with a history, it gives the answer that
  the history asks for, and agrees with the history that is longer by this answer.
* **All calls**, `Reader.agrees_run`: a reader that is called from the start on agrees with its
  history, whatever the calls are.
-/

namespace Calculator

/-! ## Elements -/

/-- What is read at the ending of a stream, each time again. -/
def Ending.element : Ending → Reader.Item
  | .endOfInput offset => .ok ⟨.endOfInput, offset⟩
  | .failure error => .error error

namespace TokenStream

/-- All that can be read from a stream: first its tokens, and then its ending for ever. -/
def element (stream : TokenStream) (n : Nat) : Reader.Item :=
  match stream.tokens[n]? with
  | some token => .ok token
  | none => stream.ending.element

/-- What is left of a stream when so many elements have been read. -/
def drop (stream : TokenStream) (n : Nat) : TokenStream :=
  ⟨stream.tokens.drop n, stream.ending⟩

@[simp]
lemma drop_drop (stream : TokenStream) (m n : Nat) :
    (stream.drop m).drop n = stream.drop (m + n) := by
  simp [drop]

@[simp]
lemma element_drop (stream : TokenStream) (m n : Nat) :
    (stream.drop m).element n = stream.element (m + n) := by
  simp [element, drop]

/-- What is pulled off a stream is its first element, and the others are left. -/
lemma element_of_pull {stream rest : TokenStream} {token : Located Token}
    (h : stream.pull = .ok (token, rest)) :
    stream.element 0 = .ok token ∧ rest = stream.drop 1 := by
  rcases stream with ⟨_ | ⟨first, tokens⟩, _ | _⟩ <;> cases h <;> exact ⟨rfl, rfl⟩

end TokenStream

namespace Reader

section

variable {reader after : Reader}

/-- An error that is read is kept. -/
lemma Step.failed_eq {error : LexicalError} (h : reader.Step (.error error) after) :
    after.failed? = some error := by
  cases h with
  | again failed => exact failed
  | failure opened scans reads => rfl

/-- **The next token is the first element of what is ahead, and the others are left.** -/
theorem nextToken_eq (h : reader.Coherent) :
    reader.nextToken.1 = reader.ahead.element 0
      ∧ reader.nextToken.2.ahead = reader.ahead.drop 1 := by
  have hstep := reader.step_nextToken
  generalize reader.nextToken = next at hstep
  rcases next with ⟨error | token, after⟩
  · have hahead := TokenStream.eq_of_pull (hstep.pull_ahead h)
    rw [hahead, ahead_of_failed hstep.failed_eq]
    exact ⟨rfl, rfl⟩
  · obtain ⟨helement, hrest⟩ := TokenStream.element_of_pull (hstep.pull_ahead h)
    exact ⟨helement.symm, hrest⟩

end

/-! ## Calls and answers -/

/-- A call of a reader. -/
inductive Call where
  | nextToken
  | next?
deriving DecidableEq

/-- An answer of a reader: `nextToken` always gives an element, `next?` gives an item or none. -/
inductive Answer where
  | token (element : Item)
  | item (item? : Option Item)
deriving DecidableEq

/-- What a reader answers to a call, and the reader after it. -/
def call (reader : Reader) : Call → Answer × Reader
  | .nextToken => (.token reader.nextToken.1, reader.nextToken.2)
  | .next? => (.item reader.next?.1, reader.next?.2)

/-- Make calls one after the other, with the answers given before them (the last one first). -/
def runAfter (history : List Answer) (reader : Reader) : List Call → List Answer × Reader
  | [] => (history, reader)
  | call :: calls => runAfter ((reader.call call).1 :: history) (reader.call call).2 calls

/-- Make calls one after the other: all answers, the last one first, and the reader after them. -/
def run (reader : Reader) (calls : List Call) : List Answer × Reader :=
  runAfter [] reader calls

/-! ## What a history asks for -/

/-- The element as an item: the end of the input is none. -/
def item? (element : Item) : Option Item :=
  match element with
  | .ok ⟨.endOfInput, _⟩ => none
  | element => some element

/-- The answers of `next?` after which there are no more items: none, or an error. -/
def Answer.isLast : Answer → Bool
  | .item none => true
  | .item (some (.error _)) => true
  | _ => false

/-- The items are over if one of the answers was the last. -/
def isOver (history : List Answer) : Bool :=
  history.any Answer.isLast

/-- The number of elements that have been read.  Each call reads one; only `next?` reads none once
the items are over. -/
def elementsRead : List Answer → Nat
  | [] => 0
  | .token _ :: earlier => elementsRead earlier + 1
  | .item _ :: earlier =>
    if isOver earlier then elementsRead earlier else elementsRead earlier + 1

@[simp]
lemma isOver_cons (answer : Answer) (history : List Answer) :
    isOver (answer :: history) = (answer.isLast || isOver history) := rfl

/-- A reader is where the history of its answers has brought it. -/
structure Agrees (stream : TokenStream) (history : List Answer) (reader : Reader) : Prop where
  coherent : reader.Coherent
  ahead_eq : reader.ahead = stream.drop (elementsRead history)
  finished_eq : reader.finished = isOver history

/-! ## One call -/

section

variable {stream : TokenStream} {history : List Answer} {reader : Reader}

/-- `nextToken` gives the next element, and reads it. -/
lemma Agrees.nextToken (h : Agrees stream history reader) :
    reader.nextToken.1 = stream.element (elementsRead history)
      ∧ Agrees stream (.token reader.nextToken.1 :: history) reader.nextToken.2 := by
  obtain ⟨helement, hrest⟩ := nextToken_eq h.coherent
  rw [h.ahead_eq] at helement hrest
  rw [TokenStream.element_drop] at helement
  rw [TokenStream.drop_drop] at hrest
  have hfinished := reader.finished_nextToken.trans h.finished_eq
  exact ⟨helement, h.coherent.step reader.step_nextToken, hrest, hfinished⟩

/-- As long as the items are not over, `next?` gives the next element too, and reads it. -/
lemma next?_of_open (h : reader.finished = false) :
    reader.next? = (item? reader.nextToken.1,
      { reader.nextToken.2 with finished := (Answer.item (item? reader.nextToken.1)).isLast }) := by
  have hafter := reader.finished_nextToken.trans h
  simp only [next?, h]
  generalize reader.nextToken = next at hafter
  rcases next with ⟨error | ⟨value, offset⟩, input, scanner, position, failed?, finished⟩
  · rfl
  · obtain rfl : finished = false := hafter
    cases value <;> rfl

/-- Once they are over, it gives none and does nothing. -/
lemma next?_of_finished (h : reader.finished = true) : reader.next? = (none, reader) := by
  rw [next?, if_pos h]

/-- Both together, by the history. -/
lemma Agrees.next? (h : Agrees stream history reader) :
    reader.next?.1
        = (if isOver history then none else item? (stream.element (elementsRead history)))
      ∧ Agrees stream (.item reader.next?.1 :: history) reader.next?.2 := by
  obtain ⟨helement, hcoherent, hrest, -⟩ := h.nextToken
  have hfinished := h.finished_eq
  cases hover : isOver history with
  | true =>
      rw [hover] at hfinished
      rw [next?_of_finished hfinished]
      refine ⟨rfl, h.coherent, ?_, ?_⟩
      · rw [elementsRead, if_pos hover]
        exact h.ahead_eq
      · rw [isOver_cons, hover, Bool.or_true]
        exact hfinished
  | false =>
      rw [hover] at hfinished
      rw [next?_of_open hfinished]
      refine ⟨congrArg item? helement, hcoherent.finish _, ?_, ?_⟩
      · rw [elementsRead, hover]
        exact hrest
      · rw [isOver_cons, hover, Bool.or_false]

/-- **After each call the reader agrees with the longer history.** -/
lemma Agrees.call (h : Agrees stream history reader) (call : Call) :
    Agrees stream ((reader.call call).1 :: history) (reader.call call).2 := by
  cases call with
  | nextToken => exact h.nextToken.2
  | next? => exact h.next?.2

end

/-! ## All calls -/

/-- Calls made one after the other keep the agreement. -/
lemma Agrees.runAfter {stream : TokenStream} {history : List Answer} {reader : Reader}
    (h : Agrees stream history reader) (calls : List Call) :
    Agrees stream (runAfter history reader calls).1 (runAfter history reader calls).2 := by
  induction calls generalizing history reader with
  | nil => exact h
  | cons call calls ih => exact ih (h.call call)

/-- **A reader agrees with the history of its answers**, from the start of its input on. -/
theorem agrees_run (input : String) (calls : List Call) :
    Agrees (.ofString input) ((ofString input).run calls).1 ((ofString input).run calls).2 := by
  have hstart : Agrees (.ofString input) [] (ofString input) :=
    ⟨coherent_ofString input, (TokenStream.ofString_eq input).symm, rfl⟩
  exact hstart.runAfter calls

/-- **Both ways of calling a reader share one way through the input.** After any calls, `nextToken`
gives the first element that has not been read.  So does `next?`, with none for the end of the
input, unless it has already answered none or with an error; then it answers none, and does nothing.
-/
theorem answers_of_calls (input : String) (calls : List Call) :
    (TokenStream.ofString input).Renders input
      ∧ ∃ history reader, (ofString input).run calls = (history, reader)
        ∧ reader.nextToken.1 = (TokenStream.ofString input).element (elementsRead history)
        ∧ (isOver history = false →
            reader.next?.1 = item? ((TokenStream.ofString input).element (elementsRead history)))
        ∧ (isOver history = true → reader.next? = (none, reader)) := by
  have hagrees := agrees_run input calls
  rcases hrun : (ofString input).run calls with ⟨history, reader⟩
  rw [hrun] at hagrees
  refine ⟨TokenStream.renders_ofString input, history, reader, rfl, hagrees.nextToken.1, ?_, ?_⟩
  · intro hover
    rw [hagrees.next?.1, hover]
    rfl
  · intro hover
    exact next?_of_finished (hagrees.finished_eq.trans hover)

/-- In `1@` the error is an item once; after it only `nextToken` gives it again. -/
example : ((ofString "1@").run [.nextToken, .next?, .next?, .nextToken]).1.reverse
    = [.token (.ok ⟨.number 1, 0⟩), .item (some (.error ⟨.unrecognizedCharacter '@', 1⟩)),
      .item none, .token (.error ⟨.unrecognizedCharacter '@', 1⟩)] := by decide +kernel

end Reader

end Calculator
