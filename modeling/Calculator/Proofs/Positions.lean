import Mathlib.Tactic.Common
import Calculator.Proofs.Calls
import Calculator.Proofs.Tiling

/-!
# Where a reader stands

A reader stands at a byte of its input, and the elements that it has read say at which.

* **Scanners**: a cursor that has come from the start of an input is `Cursor.Within` it.  It stands
  between two characters and has the last of the lexemes ahead.
* **Readers**: a reader stands where its scanner does or, after an error, before the lexeme that the
  scanner has passed; so it stands between two characters too, and each step takes it to the end of
  what it has read, `Reader.Within.step`.
* **Calls**: a call reads one element or does nothing, `Reader.call_cases`; hence where a reader
  stands is settled by the last element it has read, `Reader.placed_run`.
* **Order**: no call takes a reader back, `Reader.Coherent.position_le_run`.

`Reader.position_of_calls` says all of it of any calls of a reader.
-/

namespace Calculator

/-! ## The text of a token -/

/-- The text of a token, where it stands between two others: the symbol itself, or all the digits of
the number. -/
inductive Token.TextIn (front text rest : List Char) : Token → Prop
  | symbol {token : Token} (hsymbol : token.IsSymbol) (htext : text = token.text.toList) :
      TextIn front text rest token
  | number (hrun : MaximalRun front text rest) :
      TextIn front text rest (.number (Decimal.value text))

/-- A lexeme that is a token is the text of this token. -/
lemma Lexeme.Classified.textIn {lexeme : Lexeme} {front rest : List Char} {token : Token}
    (h : lexeme.Classified front rest) (hread : lexeme.read = .ok token) :
    token.TextIn front lexeme.text rest := by
  cases h with
  | symbol _ hsymbol htext hread' =>
      cases hread.symm.trans hread'
      exact .symbol hsymbol htext
  | number hrun _ hread' =>
      cases hread.symm.trans hread'
      exact .number hrun
  | literalTooLarge _ _ hread' => cases hread.symm.trans hread'
  | unrecognizedCharacter _ _ _ hread' => cases hread.symm.trans hread'

/-! ## Scanners -/

namespace Cursor

/-- Where the spaces have been skipped, there are none left to skip. -/
lemma skipSpaces_skipSpaces (cursor : Cursor) :
    cursor.skipSpaces.skipSpaces = cursor.skipSpaces := by
  have hblank : ∀ c ∈ cursor.rest.takeWhile isSpace, isSpace c := fun c hc =>
    List.mem_takeWhile_imp hc
  calc cursor.skipSpaces.skipSpaces
      = skipSpaces ⟨cursor.position,
          cursor.rest.takeWhile isSpace ++ cursor.rest.dropWhile isSpace⟩ :=
        (skipSpaces_append cursor.position hblank _).symm
    _ = cursor.skipSpaces := by rw [List.takeWhile_append_dropWhile]

/-- A cursor that has come some way through an input. -/
structure Within (input : String) (cursor : Cursor) : Prop where
  /-- The characters that have been passed and those still ahead are the input. -/
  exists_append : ∃ front, input.toList = front ++ cursor.rest
    ∧ byteLength front = cursor.position
  /-- The lexemes ahead are the last ones of the input. -/
  lexemes_suffix : cursor.lexemes <:+ (start input).lexemes

lemma within_start (input : String) : (start input).Within input :=
  ⟨⟨[], rfl, rfl⟩, List.suffix_rfl⟩

namespace Within

variable {input : String} {cursor : Cursor}

/-- A cursor stands between two characters, or at an end of the input. -/
lemma exists_split (h : cursor.Within input) :
    ∃ front rest : String, input = front ++ rest ∧ front.utf8ByteSize = cursor.position := by
  obtain ⟨front, htext, hfront⟩ := h.exists_append
  refine ⟨String.ofList front, String.ofList cursor.rest, ?_, ?_⟩
  · rw [← String.ofList_append, ← htext, String.ofList_toList]
  · rw [← byteLength_toList, String.toList_ofList, hfront]

lemma skipSpaces (h : cursor.Within input) : cursor.skipSpaces.Within input := by
  obtain ⟨front, htext, hfront⟩ := h.exists_append
  refine ⟨⟨front ++ cursor.rest.takeWhile isSpace, ?_, ?_⟩, ?_⟩
  · rw [htext, List.append_assoc, Cursor.skipSpaces, List.takeWhile_append_dropWhile]
  · rw [byteLength_append, hfront]
    rfl
  · rw [lexemes_congr cursor.skipSpaces_skipSpaces]
    exact h.lexemes_suffix

lemma scan (h : cursor.Within input) {after : Cursor} {lexeme : Lexeme}
    (hscan : cursor.scan = some (lexeme, after)) :
    after.Within input ∧ lexeme ∈ (start input).lexemes := by
  obtain ⟨front, htext, hfront⟩ := h.exists_append
  obtain ⟨blank, -, -, hrest, hstart, hstop⟩ := scan_eq_some_iff.1 hscan
  have hlexemes := h.lexemes_suffix
  rw [lexemes_of_scan_eq_some hscan] at hlexemes
  refine ⟨⟨⟨front ++ (blank ++ lexeme.text), ?_, ?_⟩, ?_⟩, hlexemes.subset List.mem_cons_self⟩
  · rw [htext, hrest]
    simp only [List.append_assoc]
  · rw [hstop, Lexeme.stop, hstart, ← hfront]
    simp only [byteLength_append, Nat.add_assoc]
  · exact (List.suffix_cons _ _).trans hlexemes

end Within

end Cursor

/-! ## Readers -/

/-- Where a reader stands after an element that it has read: at first at the beginning of the input,
after a token at the end of its text, after the end of the input there, and after an error before
the lexeme that is no token. -/
def Reader.StandsAfter (input : String) (position : Nat) : Option Reader.Item → Prop
  | none => position = 0
  | some (.ok ⟨.endOfInput, _⟩) => position = input.utf8ByteSize
  | some (.ok token) => ∃ front text rest : String, input = front ++ text ++ rest
      ∧ front.utf8ByteSize = token.offset ∧ (front ++ text).utf8ByteSize = position
      ∧ token.value.TextIn front.toList text.toList rest.toList
  | some (.error error) => position = error.offset

/-- After a lexeme that is a token, that is after its text. -/
lemma Reader.standsAfter_of_read {input : String} {lexeme : Lexeme} {token : Token}
    (hmem : lexeme ∈ (Cursor.start input).lexemes) (hread : lexeme.read = .ok token) :
    StandsAfter input lexeme.stop (some (.ok ⟨token, lexeme.start⟩)) := by
  obtain ⟨front, rest, hinput, hstart, hclassified⟩ := exists_classified_of_mem_lexemes hmem
  have hplace : ∃ front text rest : String, input = front ++ text ++ rest
      ∧ front.utf8ByteSize = lexeme.start ∧ (front ++ text).utf8ByteSize = lexeme.stop
      ∧ token.TextIn front.toList text.toList rest.toList := by
    refine ⟨front, String.ofList lexeme.text, rest, hinput, hstart, ?_, ?_⟩
    · rw [String.utf8ByteSize_append, hstart, Lexeme.stop, ← byteLength_toList (String.ofList _),
        String.toList_ofList]
    · rw [String.toList_ofList]
      exact hclassified.textIn hread
  cases token with
  | endOfInput => exact absurd hread lexeme.read_ne_endOfInput
  | number _ => exact hplace
  | operator _ => exact hplace
  | leftParen => exact hplace
  | rightParen => exact hplace

namespace Reader

/-- A reader that has come some way through an input.  Like its scanner it stands between two
characters. -/
structure Within (input : String) (reader : Reader) : Prop where
  input_eq : reader.input = input
  scanner : reader.scanner.Within input
  exists_split : ∃ front rest : String, input = front ++ rest
    ∧ front.utf8ByteSize = reader.position

lemma within_ofString (input : String) : (ofString input).Within input :=
  ⟨rfl, Cursor.within_start input, "", input, String.empty_append.symm, rfl⟩

lemma Within.finish {input : String} {reader : Reader} (h : reader.Within input)
    (finished : Bool) : Within input { reader with finished } :=
  ⟨h.input_eq, h.scanner, h.exists_split⟩

/-- **Each step takes a reader to the end of what it has read**, or before what it could not read.
-/
theorem Within.step {input : String} {reader after : Reader} {item : Item}
    (h : reader.Within input) (hcoherent : reader.Coherent) (hstep : reader.Step item after) :
    after.Within input ∧ StandsAfter input after.position (some item) := by
  cases hstep with
  | again failed => exact ⟨h, (hcoherent.position_of_failed _ failed).1⟩
  | endOfInput opened scans =>
      have hend : reader.input.utf8ByteSize = input.utf8ByteSize :=
        congrArg String.utf8ByteSize h.input_eq
      exact ⟨⟨h.input_eq, h.scanner.skipSpaces, input, "", String.append_empty.symm, hend.symm⟩,
        hend⟩
  | token opened scans reads =>
      obtain ⟨hafter, hmem⟩ := h.scanner.scan scans
      have hsplit := hafter.exists_split
      rw [Cursor.stop_of_scan scans] at hsplit
      exact ⟨⟨h.input_eq, hafter, hsplit⟩, standsAfter_of_read hmem reads⟩
  | failure opened scans reads =>
      have hsplit := h.scanner.skipSpaces.exists_split
      rw [← Cursor.start_of_scan scans] at hsplit
      exact ⟨⟨h.input_eq, (h.scanner.scan scans).1, hsplit⟩, rfl⟩

/-- No step takes a reader back. -/
lemma Step.position_le {reader after : Reader} {item : Item} (hstep : reader.Step item after)
    (h : reader.Coherent) : reader.position ≤ after.position := by
  cases hstep with
  | again failed => exact Nat.le_refl _
  | endOfInput opened scans =>
      rw [h.position_eq opened, ← h.total_eq]
      exact Nat.le_add_right _ _
  | token opened scans reads =>
      obtain ⟨hstart, hstop, -⟩ := Cursor.position_of_scan scans
      rw [h.position_eq opened, ← Cursor.stop_of_scan scans]
      exact Nat.le_trans hstart (Nat.le_of_lt hstop)
  | failure opened scans reads =>
      rw [h.position_eq opened]
      exact (Cursor.position_of_scan scans).1

/-! ## Calls -/

/-- The last element that has been read, if there is one. -/
def lastRead (stream : TokenStream) (history : List Answer) : Option Item :=
  match elementsRead history with
  | 0 => none
  | n + 1 => some (stream.element n)

/-- If an answer has read an element, that is the last one. -/
lemma lastRead_of_lt {stream : TokenStream} {history : List Answer} {answer : Answer}
    (h : elementsRead (answer :: history) = elementsRead history + 1) :
    lastRead stream (answer :: history) = some (stream.element (elementsRead history)) := by
  rw [lastRead, h]

/-- If it has read none, the last one is still that before. -/
lemma lastRead_of_eq {stream : TokenStream} {history : List Answer} {answer : Answer}
    (h : elementsRead (answer :: history) = elementsRead history) :
    lastRead stream (answer :: history) = lastRead stream history := by
  rw [lastRead, lastRead, h]

/-- **A call reads one element or does nothing.** -/
lemma call_cases (reader : Reader) (call : Call) :
    (∃ finished, (reader.call call).2 = { reader.nextToken.2 with finished }
        ∧ ∀ history, reader.finished = isOver history →
          elementsRead ((reader.call call).1 :: history) = elementsRead history + 1)
      ∨ ((reader.call call).2 = reader ∧ ∀ history, reader.finished = isOver history →
          elementsRead ((reader.call call).1 :: history) = elementsRead history) := by
  cases call with
  | nextToken => exact .inl ⟨_, rfl, fun _ _ => rfl⟩
  | next? =>
      cases hfinished : reader.finished with
      | true =>
          have hsame := congrArg Prod.snd (next?_of_finished hfinished)
          exact .inr ⟨hsame, fun history hover => if_pos hover.symm⟩
      | false =>
          have hread := congrArg Prod.snd (next?_of_open hfinished)
          exact .inl ⟨_, hread, fun history hover => if_neg (by simp [← hover])⟩

/-- A reader agrees with the history of its answers, and stands where the last element has brought
it. -/
structure Placed (input : String) (history : List Answer) (reader : Reader) : Prop where
  agrees : Agrees (.ofString input) history reader
  within : reader.Within input
  stands : StandsAfter input reader.position (lastRead (.ofString input) history)

/-- **One call** keeps a reader placed. -/
lemma Placed.call {input : String} {history : List Answer} {reader : Reader}
    (h : Placed input history reader) (call : Call) :
    Placed input ((reader.call call).1 :: history) (reader.call call).2 := by
  have hagrees := h.agrees.call call
  rcases reader.call_cases call with ⟨finished, hafter, hread⟩ | ⟨hsame, hread⟩
  · obtain ⟨hwithin, hstands⟩ := h.within.step h.agrees.coherent reader.step_nextToken
    have hlast := @lastRead_of_lt (.ofString input) _ _ (hread history h.agrees.finished_eq)
    rw [hafter] at hagrees ⊢
    refine ⟨hagrees, hwithin.finish finished, ?_⟩
    rw [hlast, ← h.agrees.nextToken.1]
    exact hstands
  · have hlast := @lastRead_of_eq (.ofString input) _ _ (hread history h.agrees.finished_eq)
    rw [hsame] at hagrees ⊢
    refine ⟨hagrees, h.within, ?_⟩
    rw [hlast]
    exact h.stands

/-- Calls made one after the other keep a reader placed. -/
lemma Placed.runAfter {input : String} {history : List Answer} {reader : Reader}
    (h : Placed input history reader) (calls : List Call) :
    Placed input (runAfter history reader calls).1 (runAfter history reader calls).2 := by
  induction calls generalizing history reader with
  | nil => exact h
  | cons call calls ih => exact ih (h.call call)

/-- **A reader stands where the last element has brought it**, from the start of its input on. -/
theorem placed_run (input : String) (calls : List Call) :
    Placed input ((ofString input).run calls).1 ((ofString input).run calls).2 :=
  have hstart : Placed input [] (ofString input) :=
    ⟨agrees_run input [], within_ofString input, rfl⟩
  hstart.runAfter calls

/-! ## Order -/

/-- No call takes a reader back, nor its parts apart. -/
lemma Coherent.call {reader : Reader} (h : reader.Coherent) (call : Call) :
    (reader.call call).2.Coherent ∧ reader.position ≤ (reader.call call).2.position := by
  rcases reader.call_cases call with ⟨finished, hafter, -⟩ | ⟨hsame, -⟩
  · rw [hafter]
    exact ⟨(h.step reader.step_nextToken).finish finished, reader.step_nextToken.position_le h⟩
  · rw [hsame]
    exact ⟨h, Nat.le_refl _⟩

/-- Nor do any calls one after the other. -/
lemma Coherent.position_le_run {reader : Reader} (h : reader.Coherent) (calls : List Call) :
    reader.position ≤ (reader.run calls).2.position := by
  have key : ∀ history, reader.position ≤ (runAfter history reader calls).2.position := by
    induction calls generalizing reader with
    | nil => exact fun _ => Nat.le_refl _
    | cons call calls ih =>
        intro history
        obtain ⟨hcoherent, hle⟩ := h.call call
        exact Nat.le_trans hle (ih hcoherent _)
  exact key []

/-! ## All together -/

/-- **Where a reader stands.** After any calls it stands where the last element it has read has
brought it: at first at the beginning of the input, after a token just after its text, after the end
of the input there, and after an error before the lexeme that is no token.  That is always a place
between two characters of the input or at one of its ends.  Further calls never take the reader
back, and once the items are over, `next?` leaves it where it is. -/
theorem position_of_calls (input : String) (calls : List Call) :
    ∃ history reader, (ofString input).run calls = (history, reader)
      ∧ StandsAfter input reader.position (lastRead (.ofString input) history)
      ∧ reader.position ≤ input.utf8ByteSize
      ∧ (∃ front rest : String, input = front ++ rest ∧ front.utf8ByteSize = reader.position)
      ∧ (∀ more, reader.position ≤ (reader.run more).2.position)
      ∧ (isOver history = true → (reader.call .next?).2.position = reader.position) := by
  have hplaced := placed_run input calls
  rcases hrun : (ofString input).run calls with ⟨history, reader⟩
  rw [hrun] at hplaced
  refine ⟨history, reader, rfl, hplaced.stands, ?_, hplaced.within.exists_split,
    hplaced.agrees.coherent.position_le_run, ?_⟩
  · obtain ⟨front, rest, rfl, hfront⟩ := hplaced.within.exists_split
    rw [← hfront, String.utf8ByteSize_append]
    exact Nat.le_add_right _ _
  · intro hover
    rw [Reader.call, next?_of_finished (hplaced.agrees.finished_eq.trans hover)]

/-- In ` 7é ` the reader stays before the character of two bytes, which is no token. -/
example : (((ofString " 7é ").run [.nextToken]).2.position,
    ((ofString " 7é ").run [.nextToken, .next?, .nextToken]).2.position) = (2, 2) := by
  decide +kernel

end Reader

end Calculator
