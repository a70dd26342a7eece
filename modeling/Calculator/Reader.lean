import Calculator.Cursor

/-!
# Readers

A reader goes through an input and hands out its tokens.  It can be asked in two ways, and the two
may be mixed freely, for both move the same scanner.

**`nextToken`** always answers: with a token, with the end of the input for ever once that is
reached, or with an error for ever once a lexeme was no token.

**`next?`** hands out the *items* of the input, which are its tokens and at most one error.  It is
over once it has met the end of the input or handed out the error; from then on it gives nothing
and leaves the reader as it is.  `drain` takes all items that are left.

The scanner passes every lexeme that it cuts off.  The position of the reader does not: it comes to
stand before a lexeme that is no token, and the error is kept, so that it is met again each time.
-/

namespace Calculator

/-- A way through an input. -/
structure Reader where
  input : String
  /-- Where the next lexeme is cut off. -/
  scanner : Cursor
  /-- The byte just past the last token, or that of the lexeme that was none. -/
  position : Nat
  /-- The error of the lexeme that was no token, once there was one. -/
  failed? : Option LexicalError
  /-- Whether all items have been handed out. -/
  finished : Bool
deriving DecidableEq

/-- What a reader hands out: a token or an error. -/
abbrev Reader.Item := Except LexicalError (Located Token)

namespace Reader

/-- A reader at the start of an input. -/
def ofString (input : String) : Reader :=
  ⟨input, .start input, 0, none, false⟩

/-- Read the next token, which may be the end of the input. -/
def nextToken (reader : Reader) : Item × Reader :=
  match reader.failed? with
  | some error => (.error error, reader)
  | none =>
    match reader.scanner.scan with
    | none =>
      let position := reader.input.utf8ByteSize
      (.ok ⟨.endOfInput, position⟩,
        { reader with scanner := reader.scanner.skipSpaces, position })
    | some (lexeme, after) =>
      match lexeme.read with
      | .ok token =>
        (.ok ⟨token, lexeme.start⟩, { reader with scanner := after, position := lexeme.stop })
      | .error fault =>
        let error := ⟨fault, lexeme.start⟩
        (.error error,
          { reader with scanner := after, position := lexeme.start, failed? := some error })

/-- Reading a token other than the end of the input leaves less to scan. -/
theorem length_rest_of_nextToken {reader after : Reader} {token : Located Token}
    (h : reader.nextToken = (.ok token, after)) (ht : token.value ≠ .endOfInput) :
    after.scanner.rest.length < reader.scanner.rest.length := by
  unfold nextToken at h
  split at h
  · cases h
  · split at h
    · cases h
      exact absurd rfl ht
    · rename_i hscan
      split at h
      · cases h
        exact Cursor.length_rest_of_scan hscan
      · cases h

/-- To read is not to finish. -/
theorem finished_nextToken (reader : Reader) :
    reader.nextToken.2.finished = reader.finished := by
  unfold nextToken
  split
  · rfl
  · split
    · rfl
    · split <;> rfl

/-- Take the next item, if there is one. -/
def next? (reader : Reader) : Option Item × Reader :=
  if reader.finished then
    (none, reader)
  else
    match reader.nextToken with
    | (.error error, after) => (some (.error error), { after with finished := true })
    | (.ok token, after) =>
      if token.value = .endOfInput then
        (none, { after with finished := true })
      else
        (some (.ok token), after)

/-- A bound on the number of items left. -/
def bound (reader : Reader) : Nat :=
  if reader.finished then 0 else reader.scanner.rest.length + 1

/-- Taking an item leaves fewer. -/
theorem bound_of_next? {reader after : Reader} {item : Item}
    (h : reader.next? = (some item, after)) : after.bound < reader.bound := by
  unfold next? at h
  split at h
  · cases h
  · rename_i hopen
    have hbound : reader.bound = reader.scanner.rest.length + 1 := if_neg hopen
    rw [hbound]
    split at h
    · cases h
      exact Nat.succ_pos _
    · rename_i token moved hnext
      split at h
      · cases h
      · rename_i ht
        cases h
        have hlt := length_rest_of_nextToken hnext ht
        have hafter : after.finished = reader.finished := by
          rw [← finished_nextToken reader, hnext]
        rw [bound, if_neg (hafter ▸ hopen)]
        omega

/-- All items that are left, after those already taken (the last one first). -/
def drainAfter (taken : List Item) (reader : Reader) : List Item × Reader :=
  match h : reader.next? with
  | (none, after) => (taken.reverse, after)
  | (some item, after) =>
    have := bound_of_next? h
    after.drainAfter (item :: taken)
termination_by reader.bound

/-- Take all items that are left. -/
def drain (reader : Reader) : List Item × Reader :=
  reader.drainAfter []

/-- Take all items that are left, and give their tokens unless one is an error. -/
def collect (reader : Reader) : Except LexicalError (List (Located Token)) × Reader :=
  let (items, after) := reader.drain
  (items.mapM id, after)

/-- Take all items that are left, and count them. -/
def count (reader : Reader) : Nat × Reader :=
  let (items, after) := reader.drain
  (items.length, after)

end Reader

/-- All tokens of an input without the end of the input, or the first lexical error in it. -/
def tokenize (input : String) : Except LexicalError (List (Located Token)) :=
  (Reader.ofString input).collect.1

end Calculator
