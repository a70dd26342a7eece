import Mathlib.Tactic.Common
import Calculator.TokenStream

/-!
# The token stream of an input

What a reader of an input gets to see, said of the stream of its tokens.

* **One reading.**  A reader has a scanner, a position and perhaps an error, and these belong
  together (`Reader.Coherent`).  So what is ahead of a reader is what its scanner still has to cut
  off, or its error; reading the next token pulls that one off, `Reader.pull_ahead`.  From the start
  that is all of the input, `TokenStream.ofString_eq`.
* **In order.**  The tokens stand in the input one after the other, and their ending stands after
  them all: `TokenStream.offsets_ofString`.  If the input ends the stream, it does so at its last
  byte: `TokenStream.offset_ofString`.
* **Whole.**  The end of the input is no token but the ending, `TokenStream.plain_ofString`; so a
  stream can be put together again from what was pulled off it, `TokenStream.push_of_pull`.
* **Complete.**  Tokenizing takes everything off the stream: `tokenize_eq`.

The last three go along the input lexeme by lexeme, as `Cursor.stream_induction` does.
-/

namespace Calculator

/-! ## Pulling and putting back -/

namespace TokenStream

/-- The end of the input is not among the tokens of a stream. -/
def Plain (stream : TokenStream) : Prop :=
  ∀ token ∈ stream.tokens, token.value ≠ .endOfInput

/-- The stream that gives first a token and then another stream. -/
def push (token : Located Token) (stream : TokenStream) : TokenStream :=
  if token.value = .endOfInput then
    ⟨[], .endOfInput token.offset⟩
  else
    ⟨token :: stream.tokens, stream.ending⟩

lemma push_of_ne {token : Located Token} (h : token.value ≠ .endOfInput) (stream : TokenStream) :
    stream.push token = ⟨token :: stream.tokens, stream.ending⟩ := if_neg h

lemma push_of_eq {token : Located Token} (h : token.value = .endOfInput) (stream : TokenStream) :
    stream.push token = ⟨[], .endOfInput token.offset⟩ := if_pos h

/-- **What is pulled off a stream can be put back.** -/
lemma push_of_pull {stream rest : TokenStream} {token : Located Token} (hplain : stream.Plain)
    (h : stream.pull = .ok (token, rest)) : rest.push token = stream ∧ rest.Plain := by
  rcases stream with ⟨_ | ⟨first, tokens⟩, ending⟩
  · cases ending with
    | endOfInput offset =>
        cases h
        exact ⟨push_of_eq rfl _, hplain⟩
    | failure error => cases h
  · cases h
    exact ⟨push_of_ne (hplain token List.mem_cons_self) _,
      fun later hlater => hplain later (List.mem_cons_of_mem _ hlater)⟩

/-- Nothing can be pulled off a stream that has come to its error. -/
lemma eq_of_pull {stream : TokenStream} {error : LexicalError} (h : stream.pull = .error error) :
    stream = ⟨[], .failure error⟩ := by
  rcases stream with ⟨_ | ⟨first, tokens⟩, ending⟩
  · cases ending with
    | endOfInput offset => cases h
    | failure error => cases h; rfl
  · cases h

end TokenStream

/-! ## Lexeme by lexeme -/

namespace Cursor

/-- The tokens ahead of a cursor: its lexemes, as long as they are tokens. -/
def stream (cursor : Cursor) : TokenStream :=
  match h : cursor.scan with
  | none => ⟨[], .endOfInput cursor.skipSpaces.position⟩
  | some (lexeme, after) =>
    match lexeme.read with
    | .error fault => ⟨[], .failure ⟨fault, lexeme.start⟩⟩
    | .ok token =>
      have := length_rest_of_scan h
      ⟨⟨token, lexeme.start⟩ :: after.stream.tokens, after.stream.ending⟩
termination_by cursor.rest.length

/-- A run cut off and what is left have together the bytes of the whole. -/
lemma byteLength_takeWhile_add_dropWhile (p : Char → Bool) (text : List Char) :
    byteLength (text.takeWhile p) + byteLength (text.dropWhile p) = byteLength text := by
  rw [← byteLength_append, List.takeWhile_append_dropWhile]

/-- Skipping spaces loses no byte. -/
lemma total_skipSpaces (cursor : Cursor) :
    cursor.skipSpaces.position + byteLength cursor.skipSpaces.rest
      = cursor.position + byteLength cursor.rest := by
  simp only [skipSpaces]
  rw [Nat.add_assoc, byteLength_takeWhile_add_dropWhile]

/-- **A lexeme is cut off where the cursor stands or after spaces**, it is not empty, and no byte is
lost. -/
lemma position_of_scan {cursor after : Cursor} {lexeme : Lexeme}
    (h : cursor.scan = some (lexeme, after)) :
    cursor.position ≤ lexeme.start ∧ lexeme.start < after.position
      ∧ after.position + byteLength after.rest = cursor.position + byteLength cursor.rest := by
  rw [← cursor.total_skipSpaces]
  rw [scan] at h
  split at h
  · cases h
  · rename_i first rest hrest
    cases h
    refine ⟨Nat.le_add_right _ _, ?_, ?_⟩
    · exact Nat.lt_add_of_pos_right (byteLength_pos (List.cons_ne_nil _ _))
    · rw [hrest]
      simp only [Lexeme.stop, Lexeme.text, byteLength_cons]
      split
      · have hrun := byteLength_takeWhile_add_dropWhile Char.isDigit rest
        omega
      · simp only [byteLength_nil]
        omega

/-- At the end of the input only spaces are left. -/
lemma position_of_scan_eq_none {cursor : Cursor} (h : cursor.scan = none) :
    cursor.skipSpaces.position = cursor.position + byteLength cursor.rest := by
  rw [← cursor.total_skipSpaces]
  rw [scan] at h
  split at h
  · rename_i hrest
    rw [hrest, byteLength_nil, Nat.add_zero]
  · cases h

/-- A lexeme begins after the spaces. -/
lemma start_of_scan {cursor after : Cursor} {lexeme : Lexeme}
    (h : cursor.scan = some (lexeme, after)) : lexeme.start = cursor.skipSpaces.position := by
  rw [scan] at h
  split at h <;> cases h
  rfl

/-- After it the cursor stands where it stops. -/
lemma stop_of_scan {cursor after : Cursor} {lexeme : Lexeme}
    (h : cursor.scan = some (lexeme, after)) : after.position = lexeme.stop := by
  rw [scan] at h
  split at h <;> cases h
  rfl

/-- With nothing left to cut off, the stream is over. -/
lemma stream_of_scan_eq_none {cursor : Cursor} (h : cursor.scan = none) :
    cursor.stream = ⟨[], .endOfInput cursor.skipSpaces.position⟩ := by
  rw [stream]
  split <;> simp_all

/-- A lexeme that is no token ends the stream. -/
lemma stream_of_read_eq_error {cursor after : Cursor} {lexeme : Lexeme} {fault : LexicalFault}
    (h : cursor.scan = some (lexeme, after)) (hread : lexeme.read = .error fault) :
    cursor.stream = ⟨[], .failure ⟨fault, lexeme.start⟩⟩ := by
  rw [stream]
  split <;> simp_all

/-- It is over after the last spaces too. -/
lemma stream_skipSpaces_of_scan_eq_none {cursor : Cursor} (h : cursor.scan = none) :
    cursor.skipSpaces.stream = ⟨[], .endOfInput cursor.skipSpaces.position⟩ := by
  rw [scan] at h
  split at h
  · rename_i hrest
    generalize cursor.skipSpaces = after at hrest ⊢
    rcases after with ⟨position, rest⟩
    obtain rfl : rest = [] := hrest
    exact stream_of_scan_eq_none rfl
  · cases h

/-- A lexeme that is a token is the first one of the stream. -/
lemma stream_of_read_eq_ok {cursor after : Cursor} {lexeme : Lexeme} {token : Token}
    (h : cursor.scan = some (lexeme, after)) (hread : lexeme.read = .ok token) :
    cursor.stream = ⟨⟨token, lexeme.start⟩ :: after.stream.tokens, after.stream.ending⟩ := by
  rw [stream]
  split <;> simp_all

/-- **Induction along a stream**: the input is over, or the next lexeme is no token, or it is one
and the stream goes on after it. -/
theorem stream_induction {motive : Cursor → TokenStream → Prop}
    (endOfInput : ∀ cursor : Cursor, cursor.scan = none →
      motive cursor ⟨[], .endOfInput cursor.skipSpaces.position⟩)
    (failure : ∀ (cursor : Cursor) lexeme after fault, cursor.scan = some (lexeme, after) →
      lexeme.read = .error fault → motive cursor ⟨[], .failure ⟨fault, lexeme.start⟩⟩)
    (token : ∀ (cursor : Cursor) lexeme after token, cursor.scan = some (lexeme, after) →
      lexeme.read = .ok token → motive after after.stream →
        motive cursor ⟨⟨token, lexeme.start⟩ :: after.stream.tokens, after.stream.ending⟩)
    (cursor : Cursor) : motive cursor cursor.stream := by
  induction hn : cursor.rest.length using Nat.strongRecOn generalizing cursor with
  | ind n ih =>
      subst hn
      cases hscan : cursor.scan with
      | none =>
          rw [stream_of_scan_eq_none hscan]
          exact endOfInput cursor hscan
      | some step =>
          rcases step with ⟨lexeme, after⟩
          cases hread : lexeme.read with
          | error fault =>
              rw [stream_of_read_eq_error hscan hread]
              exact failure cursor lexeme after fault hscan hread
          | ok value =>
              rw [stream_of_read_eq_ok hscan hread]
              exact token cursor lexeme after value hscan hread
                (ih _ (length_rest_of_scan hscan) after rfl)

/-- No token of a stream is the end of the input. -/
lemma plain_stream (cursor : Cursor) : cursor.stream.Plain := by
  refine stream_induction (motive := fun _ stream => stream.Plain) ?_ ?_ ?_ cursor
  · intro cursor _
    exact nofun
  · intro cursor lexeme after fault _ _
    exact nofun
  · intro cursor lexeme after value _ hread ih
    refine List.forall_mem_cons.2 ⟨?_, ih⟩
    rintro rfl
    exact lexeme.read_ne_endOfInput hread

end Cursor

/-! ## What is ahead of a reader -/

namespace Reader

/-- **How the parts of a reader belong together.**  The scanner has come some way through the input.
Up to the first error the reader stands where it does; then it stands before the lexeme that was no
token, and the scanner has passed this. -/
structure Coherent (reader : Reader) : Prop where
  total_eq : reader.scanner.position + byteLength reader.scanner.rest = reader.input.utf8ByteSize
  position_eq : reader.failed? = none → reader.position = reader.scanner.position
  position_of_failed : ∀ error, reader.failed? = some error →
    reader.position = error.offset ∧ error.offset < reader.scanner.position

/-- A reader at the start of an input is coherent. -/
lemma coherent_ofString (input : String) : (ofString input).Coherent := by
  refine ⟨?_, fun _ => rfl, nofun⟩
  exact (Nat.zero_add _).trans (byteLength_toList input)

/-- Whether all items have been handed out does not matter to that. -/
lemma Coherent.finish {reader : Reader} (h : reader.Coherent) (finished : Bool) :
    Coherent { reader with finished } :=
  ⟨h.total_eq, h.position_eq, h.position_of_failed⟩

/-- What is ahead of a reader: its error, or else what the scanner still has to cut off. -/
def ahead (reader : Reader) : TokenStream :=
  match reader.failed? with
  | some error => ⟨[], .failure error⟩
  | none => reader.scanner.stream

lemma ahead_of_failed {reader : Reader} {error : LexicalError} (h : reader.failed? = some error) :
    reader.ahead = ⟨[], .failure error⟩ := by
  rw [ahead, h]

lemma ahead_of_open {reader : Reader} (h : reader.failed? = none) :
    reader.ahead = reader.scanner.stream := by
  rw [ahead, h]

lemma plain_ahead (reader : Reader) : reader.ahead.Plain := by
  cases hfailed : reader.failed? with
  | none =>
      rw [ahead_of_open hfailed]
      exact reader.scanner.plain_stream
  | some error =>
      rw [ahead_of_failed hfailed]
      exact nofun

/-- **All that reading the next token can do** to a reader, and what it gives. -/
inductive Step (reader : Reader) : Item → Reader → Prop
  | again {error : LexicalError} (failed : reader.failed? = some error) :
      Step reader (.error error) reader
  | endOfInput (opened : reader.failed? = none) (scans : reader.scanner.scan = none) :
      Step reader (.ok ⟨.endOfInput, reader.input.utf8ByteSize⟩)
        { reader with
          scanner := reader.scanner.skipSpaces
          position := reader.input.utf8ByteSize }
  | token {lexeme : Lexeme} {after : Cursor} {token : Token} (opened : reader.failed? = none)
      (scans : reader.scanner.scan = some (lexeme, after)) (reads : lexeme.read = .ok token) :
      Step reader (.ok ⟨token, lexeme.start⟩)
        { reader with scanner := after, position := lexeme.stop }
  | failure {lexeme : Lexeme} {after : Cursor} {fault : LexicalFault}
      (opened : reader.failed? = none) (scans : reader.scanner.scan = some (lexeme, after))
      (reads : lexeme.read = .error fault) :
      Step reader (.error ⟨fault, lexeme.start⟩)
        { reader with
          scanner := after
          position := lexeme.start
          failed? := some ⟨fault, lexeme.start⟩ }

lemma step_nextToken (reader : Reader) : reader.Step reader.nextToken.1 reader.nextToken.2 := by
  rw [nextToken]
  split
  · exact .again ‹_›
  · split
    · exact .endOfInput ‹_› ‹_›
    · split
      · exact .token ‹_› ‹_› ‹_›
      · exact .failure ‹_› ‹_› ‹_›

section

variable {reader after : Reader} {item : Item}

/-- **Each step keeps the parts together.** -/
lemma Coherent.step (h : reader.Coherent) (hstep : reader.Step item after) : after.Coherent := by
  cases hstep with
  | again failed => exact h
  | endOfInput opened scans =>
      have htotal := reader.scanner.total_skipSpaces.trans h.total_eq
      have hend := (Cursor.position_of_scan_eq_none scans).trans h.total_eq
      refine ⟨htotal, fun _ => hend.symm, fun error herror => ?_⟩
      cases opened.symm.trans herror
  | token opened scans reads =>
      obtain ⟨-, -, htotal⟩ := Cursor.position_of_scan scans
      refine ⟨htotal.trans h.total_eq, fun _ => (Cursor.stop_of_scan scans).symm, ?_⟩
      intro error herror
      cases opened.symm.trans herror
  | failure opened scans reads =>
      obtain ⟨-, hstop, htotal⟩ := Cursor.position_of_scan scans
      refine ⟨htotal.trans h.total_eq, nofun, ?_⟩
      rintro error ⟨⟩
      exact ⟨rfl, hstop⟩

/-- **To read the next token is to pull it off what is ahead.** -/
lemma Step.pull_ahead (hstep : reader.Step item after) (h : reader.Coherent) :
    reader.ahead.pull = item.map fun token => (token, after.ahead) := by
  cases hstep with
  | again failed =>
      rw [ahead_of_failed failed]
      rfl
  | endOfInput opened scans =>
      have hend := (Cursor.position_of_scan_eq_none scans).trans h.total_eq
      have hafter := Cursor.stream_skipSpaces_of_scan_eq_none scans
      simp only [ahead, opened, Cursor.stream_of_scan_eq_none scans, hafter, hend]
      rfl
  | token opened scans reads =>
      simp only [ahead, opened, Cursor.stream_of_read_eq_ok scans reads]
      rfl
  | failure opened scans reads =>
      rw [ahead_of_open opened, Cursor.stream_of_read_eq_error scans reads]
      rfl

end

/-- **Induction along what is ahead of a reader**: an error is read, or the end of the input, or a
token, and the reader goes on after it. -/
theorem ahead_induction {motive : Reader → TokenStream → Prop}
    (failure : ∀ (reader : Reader) error after, reader.nextToken = (.error error, after) →
      motive reader ⟨[], .failure error⟩)
    (endOfInput : ∀ (reader : Reader) offset after,
      reader.nextToken = (.ok ⟨.endOfInput, offset⟩, after) →
        motive reader ⟨[], .endOfInput offset⟩)
    (token : ∀ (reader : Reader) token after, reader.nextToken = (.ok token, after) →
      token.value ≠ .endOfInput → motive after after.ahead →
        motive reader ⟨token :: after.ahead.tokens, after.ahead.ending⟩)
    {reader : Reader} (h : reader.Coherent) : motive reader reader.ahead := by
  induction hn : reader.scanner.rest.length using Nat.strongRecOn generalizing reader with
  | ind n ih =>
      have hstep := reader.step_nextToken
      rcases hnext : reader.nextToken with ⟨error | ⟨value, offset⟩, after⟩
      · rw [hnext] at hstep
        rw [TokenStream.eq_of_pull (hstep.pull_ahead h)]
        exact failure reader error after hnext
      · rw [hnext] at hstep
        obtain ⟨hahead, -⟩ := TokenStream.push_of_pull reader.plain_ahead (hstep.pull_ahead h)
        by_cases hvalue : value = .endOfInput
        · subst hvalue
          rw [← hahead, TokenStream.push_of_eq rfl]
          exact endOfInput reader offset after hnext
        · have hlt := length_rest_of_nextToken hnext hvalue
          rw [← hahead, TokenStream.push_of_ne hvalue]
          exact token reader ⟨value, offset⟩ after hnext hvalue
            (ih _ (hn ▸ hlt) (h.step hstep) rfl)

/-- **What a coherent reader reads is what is ahead of it**, and what was read before only stands in
front. -/
lemma streamAfter_eq {reader : Reader} (h : reader.Coherent) (seen : List (Located Token)) :
    reader.streamAfter seen = ⟨seen.reverse ++ reader.ahead.tokens, reader.ahead.ending⟩ := by
  refine ahead_induction (motive := fun reader stream => ∀ seen,
    reader.streamAfter seen = ⟨seen.reverse ++ stream.tokens, stream.ending⟩) ?_ ?_ ?_ h seen
  · intro reader error after hnext seen
    rw [streamAfter]
    split <;> simp_all
  · intro reader offset after hnext seen
    rw [streamAfter]
    split <;> simp_all
  · intro reader token after hnext htoken ih seen
    rw [streamAfter]
    split <;> simp_all

end Reader

/-- **The stream of an input** is what can be cut off from its start. -/
theorem TokenStream.ofString_eq (input : String) :
    ofString input = (Cursor.start input).stream := by
  rw [ofString, Reader.stream, Reader.streamAfter_eq (Reader.coherent_ofString input)]
  rfl

/-! ## Where the tokens stand -/

/-- Where a stream ends. -/
def Ending.offset : Ending → Nat
  | .endOfInput offset => offset
  | .failure error => error.offset

/-- Where the tokens of a stream stand, and last where it ends. -/
def TokenStream.offsets (stream : TokenStream) : List Nat :=
  stream.tokens.map (·.offset) ++ [stream.ending.offset]

namespace Cursor

/-- **The offsets of a stream increase**, from the place of the cursor on. -/
theorem offsets_stream (cursor : Cursor) :
    cursor.stream.offsets.Pairwise (· < ·) ∧ ∀ offset ∈ cursor.stream.offsets,
      cursor.position ≤ offset := by
  refine stream_induction (motive := fun cursor stream => stream.offsets.Pairwise (· < ·)
    ∧ ∀ offset ∈ stream.offsets, cursor.position ≤ offset) ?_ ?_ ?_ cursor
  · intro cursor _
    refine ⟨List.pairwise_singleton _ _, List.forall_mem_singleton.2 ?_⟩
    exact Nat.le_add_right _ _
  · intro cursor lexeme after fault hscan _
    obtain ⟨hstart, -, -⟩ := position_of_scan hscan
    exact ⟨List.pairwise_singleton _ _, List.forall_mem_singleton.2 hstart⟩
  · intro cursor lexeme after value hscan _ ih
    obtain ⟨hstart, hstop, -⟩ := position_of_scan hscan
    rcases ih with ⟨hpairwise, hafter⟩
    have hlater : ∀ offset ∈ after.stream.offsets, lexeme.start < offset := fun offset hmem =>
      Nat.lt_of_lt_of_le hstop (hafter offset hmem)
    refine ⟨List.pairwise_cons.2 ⟨hlater, hpairwise⟩, List.forall_mem_cons.2 ⟨hstart, ?_⟩⟩
    intro offset hmem
    exact Nat.le_trans hstart (Nat.le_of_lt (hlater offset hmem))

/-- If the input ends the stream, all bytes have been passed. -/
lemma offset_stream (cursor : Cursor) : ∀ offset, cursor.stream.ending = .endOfInput offset →
    offset = cursor.position + byteLength cursor.rest := by
  refine stream_induction (motive := fun cursor stream => ∀ offset,
    stream.ending = .endOfInput offset → offset = cursor.position + byteLength cursor.rest)
    ?_ ?_ ?_ cursor
  · rintro cursor hscan offset ⟨⟩
    exact position_of_scan_eq_none hscan
  · rintro cursor lexeme after fault _ _ offset ⟨⟩
  · intro cursor lexeme after value hscan _ ih offset hending
    rw [ih offset hending]
    exact (position_of_scan hscan).2.2

end Cursor

namespace TokenStream

lemma plain_ofString (input : String) : (ofString input).Plain := by
  rw [ofString_eq]
  exact (Cursor.start input).plain_stream

theorem offsets_ofString (input : String) : (ofString input).offsets.Pairwise (· < ·) := by
  rw [ofString_eq]
  exact (Cursor.start input).offsets_stream.1

theorem offset_ofString {input : String} {offset : Nat}
    (h : (ofString input).ending = .endOfInput offset) : offset = input.utf8ByteSize := by
  rw [ofString_eq] at h
  rw [(Cursor.start input).offset_stream offset h, Cursor.start, byteLength_toList, Nat.zero_add]

end TokenStream

namespace TokenStream

/-- The tokens of a stream that stand before an offset. -/
def before (stream : TokenStream) (offset : Nat) : List (Located Token) :=
  stream.tokens.filter fun token => token.offset < offset

/-- The ending of a stream stands after its tokens. -/
lemma offset_lt_ending {stream : TokenStream} (h : stream.offsets.Pairwise (· < ·)) :
    ∀ token ∈ stream.tokens, token.offset < stream.ending.offset := by
  intro token hmem
  obtain ⟨-, -, hlt⟩ := List.pairwise_append.1 h
  exact hlt _ (List.mem_map_of_mem hmem) _ (List.mem_singleton_self _)

lemma before_ending {stream : TokenStream} (h : stream.offsets.Pairwise (· < ·)) :
    stream.before stream.ending.offset = stream.tokens :=
  List.filter_eq_self.2 fun token hmem => decide_eq_true (offset_lt_ending h token hmem)

/-- What stands before a token of a stream is what comes before it. -/
lemma before_of_append {stream : TokenStream} (h : stream.offsets.Pairwise (· < ·))
    {front after : List (Located Token)} {token : Located Token}
    (htokens : stream.tokens = front ++ token :: after) : stream.before token.offset = front := by
  obtain ⟨hpairwise, -⟩ := List.pairwise_append.1 h
  rw [htokens, List.map_append, List.map_cons] at hpairwise
  obtain ⟨-, hafter, hfront⟩ := List.pairwise_append.1 hpairwise
  have hkeep : ∀ other ∈ front, other.offset < token.offset := fun other hmem =>
    hfront _ (List.mem_map_of_mem hmem) _ List.mem_cons_self
  have hdrop : ∀ other ∈ after, ¬other.offset < token.offset := fun other hmem =>
    Nat.lt_asymm ((List.pairwise_cons.1 hafter).1 _ (List.mem_map_of_mem hmem))
  rw [before, htokens, List.filter_append, List.filter_cons_of_neg (by simp),
    List.filter_eq_self.2 (by simpa using hkeep), List.filter_eq_nil_iff.2 (by simpa using hdrop),
    List.append_nil]

/-- A token further to the front stands in what comes before. -/
lemma exists_before_of_lt {stream : TokenStream} (h : stream.offsets.Pairwise (· < ·))
    {before after : List (Located Token)} {token other : Located Token}
    (htokens : stream.tokens = before ++ token :: after) (hmem : other ∈ stream.tokens)
    (hlt : other.offset < token.offset) :
    ∃ back, before = stream.before other.offset ++ other :: back := by
  have hother : other ∈ before := by
    rw [← before_of_append h htokens]
    exact List.mem_filter.2 ⟨hmem, decide_eq_true hlt⟩
  obtain ⟨front, back, rfl⟩ := List.append_of_mem hother
  rw [List.append_assoc, List.cons_append] at htokens
  exact ⟨back, by rw [before_of_append h htokens]⟩

end TokenStream

/-! ## Tokenizing -/

namespace TokenStream

/-- The items of a stream: its tokens, and then the error, if it ends with one. -/
def items (stream : TokenStream) : List Reader.Item :=
  stream.tokens.map .ok ++
    match stream.ending with
    | .endOfInput _ => []
    | .failure error => [.error error]

/-- The tokens of a stream, unless it ends with an error. -/
def collect (stream : TokenStream) : Except LexicalError (List (Located Token)) :=
  match stream.ending with
  | .endOfInput _ => .ok stream.tokens
  | .failure error => .error error

lemma collect_eq_ok_iff {stream : TokenStream} {tokens : List (Located Token)} :
    stream.collect = .ok tokens ↔ ∃ offset, stream = ⟨tokens, .endOfInput offset⟩ := by
  rcases stream with ⟨_, _ | _⟩ <;> simp [collect]

lemma mapM_items (stream : TokenStream) : stream.items.mapM id = stream.collect := by
  rcases stream with ⟨tokens, ending⟩
  induction tokens with
  | nil => cases ending <;> rfl
  | cons token tokens ih =>
      simp only [items, collect, List.map_cons, List.cons_append, List.mapM_cons] at ih ⊢
      rw [ih]
      cases ending <;> rfl

end TokenStream

namespace Reader

lemma drainAfter_of_none {reader after : Reader} (h : reader.next? = (none, after))
    (taken : List Item) : reader.drainAfter taken = (taken.reverse, after) := by
  rw [drainAfter]
  split <;> simp_all

lemma drainAfter_of_some {reader after : Reader} {item : Item}
    (h : reader.next? = (some item, after)) (taken : List Item) :
    reader.drainAfter taken = after.drainAfter (item :: taken) := by
  rw [drainAfter]
  split <;> simp_all

/-- Once finished, a reader has no more to give. -/
lemma drainAfter_of_finished {reader : Reader} (h : reader.finished = true) (taken : List Item) :
    (reader.drainAfter taken).1 = taken.reverse := by
  rw [drainAfter_of_none (by rw [next?, if_pos h])]

/-- **A reader that is not finished drains the items of what is ahead of it.** -/
lemma items_drainAfter {reader : Reader} (h : reader.Coherent) (hopen : reader.finished = false)
    (taken : List Item) : (reader.drainAfter taken).1 = taken.reverse ++ reader.ahead.items := by
  refine ahead_induction (motive := fun reader stream => reader.finished = false → ∀ taken,
    (reader.drainAfter taken).1 = taken.reverse ++ stream.items) ?_ ?_ ?_ h hopen taken
  · intro reader error after hread hopen taken
    have hnext : reader.next? = (some (.error error), { after with finished := true }) := by
      simp [next?, hopen, hread]
    rw [drainAfter_of_some hnext, drainAfter_of_finished rfl]
    exact List.reverse_cons
  · intro reader offset after hread hopen taken
    have hnext : reader.next? = (none, { after with finished := true }) := by
      simp [next?, hopen, hread]
    rw [drainAfter_of_none hnext]
    exact (List.append_nil _).symm
  · intro reader token after hread htoken ih hopen taken
    have hnext : reader.next? = (some (.ok token), after) := by
      simp [next?, hopen, hread, htoken]
    have hafter : after.finished = false := by
      rw [← hopen, ← finished_nextToken reader, hread]
    rw [drainAfter_of_some hnext, ih hafter, List.reverse_cons, List.append_assoc]
    rfl

end Reader

/-- **A reader hands out the items of the stream.** -/
theorem Reader.items_drain (input : String) :
    (ofString input).drain.1 = (TokenStream.ofString input).items := by
  rw [TokenStream.ofString_eq]
  exact items_drainAfter (coherent_ofString input) rfl []

/-- **Tokenizing takes all tokens off the stream.** -/
theorem tokenize_eq (input : String) : tokenize input = (TokenStream.ofString input).collect := by
  rw [← TokenStream.mapM_items, ← Reader.items_drain]
  rfl

lemma ending_of_tokenize_eq_error {input : String} {error : LexicalError}
    (h : tokenize input = .error error) : (TokenStream.ofString input).ending = .failure error := by
  rw [tokenize_eq, TokenStream.collect] at h
  split at h <;> cases h
  assumption

lemma tokenize_eq_ok_iff {input : String} {tokens : List (Located Token)} :
    tokenize input = .ok tokens
      ↔ ∃ offset, TokenStream.ofString input = ⟨tokens, .endOfInput offset⟩ := by
  rw [tokenize_eq, TokenStream.collect_eq_ok_iff]

end Calculator
