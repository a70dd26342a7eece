import Mathlib.Data.List.TakeWhile
import Mathlib.Tactic.Common
import Calculator.Proofs.TokenStream

/-!
# The tokens of a concatenation

A text that is put together from two is cut into the lexemes of the first and then those of the
second, unless the seam is **between two digits**, where a run of digits would go across it.

* **Cutting off**, `Cursor.scan_eq_some_iff`: which lexeme is cut off is said without the scan, by
  what stands before it and after it.  All that is asked of the rest of the text is that it does not
  go on with a run of digits.
* **The seam**, `Cursor.stream_append`: the stream of the whole is the stream of the first text, and
  where this comes to the end of its input, the stream of the second follows.
-/

namespace Calculator

/-! ## Runs -/

/-- A text begins with a run of characters, and the run does not go on. -/
lemma takeWhile_eq_and_dropWhile_eq_iff {p : Char → Bool} {text run rest : List Char} :
    (text.takeWhile p = run ∧ text.dropWhile p = rest)
      ↔ text = run ++ rest ∧ (∀ c ∈ run, p c) ∧ ∀ c ∈ rest.head?, ¬p c := by
  constructor
  · rintro ⟨rfl, rfl⟩
    refine ⟨List.takeWhile_append_dropWhile.symm, fun c hc => List.mem_takeWhile_imp hc, ?_⟩
    intro c hc
    have hhead := List.head?_dropWhile_not p text
    rw [Option.mem_def.1 hc] at hhead
    simpa using hhead
  · rintro ⟨rfl, hrun, hrest⟩
    rw [List.takeWhile_append_of_pos hrun, List.dropWhile_append_of_pos hrun]
    cases rest with
    | nil => simp
    | cons c rest =>
        have hc : ¬p c := hrest c rfl
        simp [hc]

/-- The seam between two texts is between two digits. -/
def BetweenDigits (left right : List Char) : Prop :=
  ∃ c ∈ left.getLast?, ∃ d ∈ right.head?, c.isDigit ∧ d.isDigit

instance (left right : List Char) : Decidable (BetweenDigits left right) :=
  decidable_of_iff (left.getLast?.any Char.isDigit ∧ right.head?.any Char.isDigit) <| by
    simp only [BetweenDigits, Option.any_eq_true, Option.mem_def]
    constructor
    · rintro ⟨⟨c, hc, hc'⟩, d, hd, hd'⟩
      exact ⟨c, hc, d, hd, hc', hd'⟩
    · rintro ⟨c, hc, d, hd, hc', hd'⟩
      exact ⟨⟨c, hc, hc'⟩, d, hd, hd'⟩

/-- Of the text on the left only the end is at the seam. -/
lemma betweenDigits_append {front left right : List Char} (h : left ≠ []) :
    BetweenDigits (front ++ left) right ↔ BetweenDigits left right := by
  rw [BetweenDigits, BetweenDigits, List.getLast?_append, List.getLast?_eq_some_getLast h,
    Option.some_or]

/-- A seam is not between two digits if the text before it ends with something else. -/
lemma not_betweenDigits_of_getLast? {left : List Char} (h : ∀ c ∈ left.getLast?, c.isDigit = false)
    (right : List Char) : ¬BetweenDigits left right := by
  rintro ⟨c, hc, -, -, hdigit, -⟩
  rw [h c hc] at hdigit
  cases hdigit

/-- Nor if the text after it begins with something else. -/
lemma not_betweenDigits_of_head? {right : List Char} (h : ∀ c ∈ right.head?, c.isDigit = false)
    (left : List Char) : ¬BetweenDigits left right := by
  rintro ⟨-, -, d, hd, -, hdigit⟩
  rw [h d hd] at hdigit
  cases hdigit

/-! ## Cutting off -/

/-- The lexeme is whole before this rest of a text: it is a run of digits that does not go on, or a
single other character, and it is not a space. -/
structure Lexeme.WholeBefore (lexeme : Lexeme) (rest : List Char) : Prop where
  not_isSpace : isSpace lexeme.first = false
  digits : lexeme.first.isDigit → (∀ c ∈ lexeme.more, c.isDigit) ∧ ∀ c ∈ rest.head?, ¬c.isDigit
  single : ¬lexeme.first.isDigit → lexeme.more = []

/-- Only a run of digits ends with a digit. -/
lemma Lexeme.WholeBefore.isDigit_getLast_iff {lexeme : Lexeme} {rest : List Char}
    (h : lexeme.WholeBefore rest) :
    (∃ c ∈ lexeme.text.getLast?, c.isDigit) ↔ lexeme.first.isDigit := by
  rw [Lexeme.text]
  constructor
  · rintro ⟨c, hc, hdigit⟩
    by_contra hfirst
    rw [h.single hfirst] at hc
    cases hc
    exact hfirst hdigit
  · intro hfirst
    refine ⟨_, List.getLast?_eq_some_getLast (List.cons_ne_nil _ _), ?_⟩
    rcases List.mem_cons.1 (List.getLast_mem (List.cons_ne_nil lexeme.first lexeme.more)) with
      hlast | hlast
    · rw [hlast]
      exact hfirst
    · exact (h.digits hfirst).1 _ hlast

namespace Cursor

/-- Spaces ahead are skipped. -/
lemma skipSpaces_append (position : Nat) {blank : List Char} (hblank : ∀ c ∈ blank, isSpace c)
    (rest : List Char) :
    skipSpaces ⟨position, blank ++ rest⟩ = skipSpaces ⟨position + byteLength blank, rest⟩ := by
  simp only [skipSpaces, List.takeWhile_append_of_pos hblank, List.dropWhile_append_of_pos hblank,
    byteLength_append, Nat.add_assoc]

/-- Where no space is ahead, none is skipped. -/
lemma skipSpaces_of_not_isSpace (position : Nat) {first : Char} (h : isSpace first = false)
    (rest : List Char) : skipSpaces ⟨position, first :: rest⟩ = ⟨position, first :: rest⟩ := by
  simp [skipSpaces, h]

/-- Spaces ahead have no say in what is cut off. -/
lemma scan_congr {cursor other : Cursor} (h : cursor.skipSpaces = other.skipSpaces) :
    cursor.scan = other.scan := by
  rw [scan, scan, h]

/-- Nothing is cut off if only spaces are ahead. -/
lemma scan_eq_none_iff {cursor : Cursor} : cursor.scan = none ↔ ∀ c ∈ cursor.rest, isSpace c := by
  rw [← List.dropWhile_eq_nil_iff, scan]
  split
  · rename_i hrest
    exact iff_of_true rfl hrest
  · rename_i hrest
    have hne : cursor.rest.dropWhile isSpace ≠ [] := by
      show cursor.skipSpaces.rest ≠ []
      simp [hrest]
    exact iff_of_false (Option.some_ne_none _) hne

/-- **What is cut off**: the lexeme after the spaces, as it stands whole before the rest. -/
theorem scan_eq_some_iff {cursor after : Cursor} {lexeme : Lexeme} :
    cursor.scan = some (lexeme, after) ↔ ∃ blank : List Char, (∀ c ∈ blank, isSpace c)
      ∧ lexeme.WholeBefore after.rest
      ∧ cursor.rest = blank ++ (lexeme.text ++ after.rest)
      ∧ lexeme.start = cursor.position + byteLength blank ∧ after.position = lexeme.stop := by
  constructor
  · intro h
    rw [scan] at h
    split at h
    · cases h
    · rename_i first rest hskip
      obtain ⟨hrest, hblank, hfirst⟩ := takeWhile_eq_and_dropWhile_eq_iff.1 ⟨rfl, hskip⟩
      obtain ⟨htext, hdigits, hmore⟩ : rest = rest.takeWhile Char.isDigit
            ++ rest.dropWhile Char.isDigit
          ∧ (∀ c ∈ rest.takeWhile Char.isDigit, c.isDigit)
          ∧ ∀ c ∈ (rest.dropWhile Char.isDigit).head?, ¬c.isDigit :=
        takeWhile_eq_and_dropWhile_eq_iff.1 ⟨rfl, rfl⟩
      have hspace : isSpace first = false := by simpa using hfirst first rfl
      cases h
      refine ⟨_, hblank, ⟨hspace, ?_, ?_⟩, ?_, rfl, rfl⟩
      · intro hdigit
        simp only [hdigit, if_true]
        exact ⟨hdigits, hmore⟩
      · intro hdigit
        exact if_neg hdigit
      · refine hrest.trans (congrArg _ ?_)
        by_cases hdigit : first.isDigit
        · simp only [Lexeme.text, hdigit, if_true, List.cons_append, ← htext]
        · simp only [Lexeme.text, hdigit]
          rfl
  · rintro ⟨blank, hblank, hwhole, hrest, hstart, hstop⟩
    rcases cursor with ⟨position, text⟩
    rcases after with ⟨stop, rest⟩
    rcases lexeme with ⟨start, first, more⟩
    obtain rfl : text = blank ++ (first :: more ++ rest) := hrest
    obtain rfl : start = position + byteLength blank := hstart
    obtain rfl : stop = Lexeme.stop _ := hstop
    have hskip : skipSpaces ⟨position, blank ++ (first :: more ++ rest)⟩
        = ⟨position + byteLength blank, first :: (more ++ rest)⟩ := by
      rw [skipSpaces_append position hblank]
      exact skipSpaces_of_not_isSpace _ hwhole.not_isSpace _
    rw [scan, hskip]
    by_cases hdigit : first.isDigit
    · obtain ⟨hdigits, hnext⟩ := hwhole.digits hdigit
      obtain ⟨htake, hdrop⟩ :=
        takeWhile_eq_and_dropWhile_eq_iff.2 ⟨rfl, hdigits, hnext⟩
      simp only [hdigit, if_true, htake, hdrop]
    · obtain rfl : more = [] := hwhole.single hdigit
      simp only [hdigit, List.nil_append]
      rfl

/-! ## The seam -/

/-- What goes on after a lexeme has no say in it, unless the lexeme is a run of digits that goes
on. -/
lemma scan_append {cursor after : Cursor} {lexeme : Lexeme}
    (h : cursor.scan = some (lexeme, after)) {rest : List Char}
    (hseam : ¬BetweenDigits cursor.rest rest) :
    scan ⟨cursor.position, cursor.rest ++ rest⟩
        = some (lexeme, ⟨after.position, after.rest ++ rest⟩)
      ∧ ¬BetweenDigits after.rest rest := by
  obtain ⟨blank, hblank, hwhole, hrest, hstart, hstop⟩ := scan_eq_some_iff.1 h
  constructor
  · refine scan_eq_some_iff.2 ⟨blank, hblank, ⟨hwhole.not_isSpace, ?_, hwhole.single⟩, ?_, hstart,
      hstop⟩
    · intro hdigit
      obtain ⟨hdigits, hnext⟩ := hwhole.digits hdigit
      refine ⟨hdigits, ?_⟩
      cases hafter : after.rest with
      | cons c more =>
          rw [hafter] at hnext
          exact hnext
      | nil =>
          -- the run of digits comes to the seam
          intro d hd hd'
          obtain ⟨c, hc, hc'⟩ := hwhole.isDigit_getLast_iff.2 hdigit
          have hne : lexeme.text ≠ [] := List.cons_ne_nil _ _
          rw [hrest, hafter, List.append_nil, betweenDigits_append hne] at hseam
          exact hseam ⟨c, hc, d, hd, hc', hd'⟩
    · rw [hrest, List.append_assoc, List.append_assoc]
  · intro hafter
    have hne : after.rest ≠ [] := by
      rintro hnil
      rw [hnil] at hafter
      rcases hafter with ⟨c, ⟨⟩, -⟩
    rw [hrest, ← List.append_assoc, betweenDigits_append hne] at hseam
    exact hseam hafter

end Cursor

/-- One stream after another: where the first comes to the end of its input, the second follows. -/
def TokenStream.append (first second : TokenStream) : TokenStream :=
  match first.ending with
  | .endOfInput _ => ⟨first.tokens ++ second.tokens, second.ending⟩
  | .failure _ => first

namespace Cursor

/-- Spaces ahead do not change the stream. -/
lemma stream_congr {cursor other : Cursor} (h : cursor.skipSpaces = other.skipSpaces) :
    cursor.stream = other.stream := by
  have hscan := scan_congr h
  cases hother : other.scan with
  | none =>
      rw [stream_of_scan_eq_none hother, stream_of_scan_eq_none (hscan.trans hother), h]
  | some step =>
      rcases step with ⟨lexeme, after⟩
      cases hread : lexeme.read with
      | error fault =>
          rw [stream_of_read_eq_error hother hread,
            stream_of_read_eq_error (hscan.trans hother) hread]
      | ok token =>
          rw [stream_of_read_eq_ok hother hread, stream_of_read_eq_ok (hscan.trans hother) hread]

/-- Hence they can be passed. -/
lemma stream_append_of_isSpace (position : Nat) {blank : List Char}
    (hblank : ∀ c ∈ blank, isSpace c) (rest : List Char) :
    stream ⟨position, blank ++ rest⟩ = stream ⟨position + byteLength blank, rest⟩ :=
  stream_congr (skipSpaces_append position hblank rest)

/-- **The stream of a concatenation** is the stream of the first text and then that of the second,
if the seam is not between two digits. -/
theorem stream_append (cursor : Cursor) {rest : List Char}
    (hseam : ¬BetweenDigits cursor.rest rest) :
    stream ⟨cursor.position, cursor.rest ++ rest⟩
      = cursor.stream.append (stream ⟨cursor.position + byteLength cursor.rest, rest⟩) := by
  refine stream_induction (motive := fun cursor stream => ¬BetweenDigits cursor.rest rest →
    Cursor.stream ⟨cursor.position, cursor.rest ++ rest⟩
      = stream.append (Cursor.stream ⟨cursor.position + byteLength cursor.rest, rest⟩))
    ?_ ?_ ?_ cursor hseam
  · intro cursor hscan _
    exact stream_append_of_isSpace cursor.position (scan_eq_none_iff.1 hscan) rest
  · intro cursor lexeme after fault hscan hread hseam
    obtain ⟨happend, -⟩ := scan_append hscan hseam
    exact stream_of_read_eq_error happend hread
  · intro cursor lexeme after token hscan hread ih hseam
    obtain ⟨happend, hseam'⟩ := scan_append hscan hseam
    rw [stream_of_read_eq_ok happend hread, ih hseam', (position_of_scan hscan).2.2]
    rcases after.stream with ⟨tokens, _ | _⟩ <;> rfl

/-- The tokens of a text and the lexeme that is none of them stand within the text. -/
lemma offset_lt_of_stream (cursor : Cursor) :
    (∀ token ∈ cursor.stream.tokens, token.offset < cursor.position + byteLength cursor.rest)
      ∧ ∀ error, cursor.stream.ending = .failure error →
          error.offset < cursor.position + byteLength cursor.rest := by
  refine stream_induction (motive := fun cursor stream =>
    (∀ token ∈ stream.tokens, token.offset < cursor.position + byteLength cursor.rest)
      ∧ ∀ error, stream.ending = .failure error →
          error.offset < cursor.position + byteLength cursor.rest) ?_ ?_ ?_ cursor
  · intro cursor _
    exact ⟨nofun, nofun⟩
  · intro cursor lexeme after fault hscan _
    obtain ⟨-, hstop, htotal⟩ := position_of_scan hscan
    refine ⟨nofun, ?_⟩
    rintro error ⟨⟩
    show lexeme.start < _
    omega
  · intro cursor lexeme after token hscan _ ih
    obtain ⟨-, hstop, htotal⟩ := position_of_scan hscan
    rw [htotal] at ih
    refine ⟨List.forall_mem_cons.2 ⟨?_, ih.1⟩, ih.2⟩
    show lexeme.start < _
    omega

end Cursor

namespace TokenStream

/-- The stream of a concatenation of two inputs. -/
theorem ofString_append {front back : String} (h : ¬BetweenDigits front.toList back.toList) :
    ofString (front ++ back)
      = (ofString front).append (Cursor.stream ⟨front.utf8ByteSize, back.toList⟩) := by
  have happend := Cursor.stream_append (Cursor.start front) h
  simp only [Cursor.start, byteLength_toList, Nat.zero_add] at happend
  rw [ofString_eq, ofString_eq, Cursor.start, String.toList_append]
  exact happend

/-- The tokens of an input and the lexeme that is none of them stand within it. -/
lemma offset_lt_ofString (input : String) :
    (∀ token ∈ (ofString input).tokens, token.offset < input.utf8ByteSize)
      ∧ ∀ error, (ofString input).ending = .failure error → error.offset < input.utf8ByteSize := by
  have hwithin := (Cursor.start input).offset_lt_of_stream
  rw [← ofString_eq] at hwithin
  simp only [Cursor.start, byteLength_toList, Nat.zero_add] at hwithin
  exact hwithin

end TokenStream

end Calculator
