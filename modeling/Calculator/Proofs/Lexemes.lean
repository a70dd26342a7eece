import Mathlib.Tactic.Common
import Calculator.Proofs.Concatenation

/-!
# Where lexemes stand

A lexeme is a piece of the text, and it is whole where it stands.  If it is a run of digits, no
digit comes just before it or just after it; otherwise it is a single character.

* **In the text**, `Cursor.exists_append_of_mem_lexemes`: the text is what comes before a lexeme,
  the lexeme, and what comes after.
* **In the stream**, `Cursor.exists_lexeme_of_mem_tokens` and `Cursor.exists_lexeme_of_failure`:
  each token of the stream is what a lexeme reads as, and an error that ends it is what a lexeme
  fails with.
* **The alphabet**, `mem_alphabet_iff`: a lexeme that is read as a symbol or a number is made of
  characters of the alphabet, and a lexeme of one unrecognized character is not.
-/

namespace Calculator

/-! ## In the text -/

/-- Spaces do not end with a digit. -/
lemma not_betweenDigits_of_isSpace {blank : List Char} (h : ∀ c ∈ blank, isSpace c)
    (right : List Char) : ¬BetweenDigits blank right := by
  refine not_betweenDigits_of_getLast? (fun c hc => ?_) right
  have hspace : c = ' ' := by simpa [isSpace] using h c (List.mem_of_getLast? hc)
  rw [hspace]
  rfl

/-- After a lexeme that is whole, the seam is between two digits only before a digit that the
lexeme, if it is a run of digits, does not go on with. -/
lemma Lexeme.WholeBefore.not_betweenDigits {lexeme : Lexeme} {rest : List Char}
    (h : lexeme.WholeBefore rest) (front : List Char) {other : List Char}
    (hother : lexeme.first.isDigit → ∀ c ∈ other.head?, ¬c.isDigit) :
    ¬BetweenDigits (front ++ lexeme.text) other := by
  have hne : lexeme.text ≠ [] := List.cons_ne_nil _ _
  rw [betweenDigits_append hne]
  rintro ⟨c, hc, d, hd, hc', hd'⟩
  exact hother (h.isDigit_getLast_iff.1 ⟨c, hc, hc'⟩) d hd hd'

lemma Lexeme.start_lt_stop (lexeme : Lexeme) : lexeme.start < lexeme.stop :=
  Nat.lt_add_of_pos_right (byteLength_pos (List.cons_ne_nil _ _))

namespace Cursor

lemma lexemes_of_scan_eq_none {cursor : Cursor} (h : cursor.scan = none) : cursor.lexemes = [] := by
  rw [lexemes]
  split <;> simp_all

lemma lexemes_of_scan_eq_some {cursor after : Cursor} {lexeme : Lexeme}
    (h : cursor.scan = some (lexeme, after)) : cursor.lexemes = lexeme :: after.lexemes := by
  rw [lexemes]
  split <;> simp_all

/-- **A lexeme is whole where it stands**, on both sides. -/
theorem exists_append_of_mem_lexemes {cursor : Cursor} {lexeme : Lexeme}
    (h : lexeme ∈ cursor.lexemes) :
    ∃ front rest, cursor.rest = front ++ lexeme.text ++ rest
      ∧ lexeme.start = cursor.position + byteLength front ∧ lexeme.WholeBefore rest
      ∧ ¬BetweenDigits front lexeme.text := by
  induction cursor using lexemes.induct with
  | case1 cursor hscan =>
      rw [lexemes_of_scan_eq_none hscan] at h
      cases h
  | case2 cursor first after hscan _ ih =>
      obtain ⟨blank, hblank, hwhole, hrest, hstart, hstop⟩ := scan_eq_some_iff.1 hscan
      rw [lexemes_of_scan_eq_some hscan] at h
      rcases List.mem_cons.1 h with rfl | hmem
      · exact ⟨blank, after.rest, by rw [hrest, List.append_assoc], hstart, hwhole,
          not_betweenDigits_of_isSpace hblank _⟩
      · obtain ⟨front, rest, hrest', hstart', hwhole', hfront⟩ := ih hmem
        refine ⟨blank ++ first.text ++ front, rest, ?_, ?_, hwhole', ?_⟩
        · rw [hrest, hrest']
          simp only [List.append_assoc]
        · rw [hstart', hstop, Lexeme.stop, hstart]
          simp only [byteLength_append, Nat.add_assoc]
        · cases front with
          | cons c front =>
              rw [betweenDigits_append (List.cons_ne_nil c front)]
              exact hfront
          | nil =>
              -- the two lexemes touch, and the first of them does not go on
              rw [List.append_nil]
              refine hwhole.not_betweenDigits blank fun hdigit => ?_
              have hnext := (hwhole.digits hdigit).2
              rw [hrest'] at hnext
              exact hnext

/-! ## In the stream -/

/-- Each token of a stream is what a lexeme reads as. -/
lemma exists_lexeme_of_mem_tokens (cursor : Cursor) : ∀ token ∈ cursor.stream.tokens,
    ∃ lexeme ∈ cursor.lexemes, lexeme.start = token.offset
      ∧ lexeme.read = .ok token.value := by
  refine stream_induction (motive := fun cursor stream => ∀ token ∈ stream.tokens,
    ∃ lexeme ∈ cursor.lexemes, lexeme.start = token.offset ∧ lexeme.read = .ok token.value)
    ?_ ?_ ?_ cursor
  · intro cursor _
    exact nofun
  · intro cursor lexeme after fault _ _
    exact nofun
  · intro cursor lexeme after value hscan hread ih
    rw [lexemes_of_scan_eq_some hscan]
    refine List.forall_mem_cons.2 ⟨⟨lexeme, List.mem_cons_self, rfl, hread⟩, ?_⟩
    intro token hmem
    obtain ⟨other, hother, hfound⟩ := ih token hmem
    exact ⟨other, List.mem_cons_of_mem _ hother, hfound⟩

/-- An error that ends a stream is what a lexeme fails with. -/
lemma exists_lexeme_of_failure (cursor : Cursor) : ∀ error, cursor.stream.ending = .failure error →
    ∃ lexeme ∈ cursor.lexemes, lexeme.start = error.offset
      ∧ lexeme.read = .error error.value := by
  refine stream_induction (motive := fun cursor stream => ∀ error,
    stream.ending = .failure error → ∃ lexeme ∈ cursor.lexemes, lexeme.start = error.offset
      ∧ lexeme.read = .error error.value) ?_ ?_ ?_ cursor
  · intro cursor _
    exact nofun
  · rintro cursor lexeme after fault hscan hread error ⟨⟩
    rw [lexemes_of_scan_eq_some hscan]
    exact ⟨lexeme, List.mem_cons_self, rfl, hread⟩
  · intro cursor lexeme after value hscan _ ih error hending
    rw [lexemes_of_scan_eq_some hscan]
    obtain ⟨other, hother, hfound⟩ := ih error hending
    exact ⟨other, List.mem_cons_of_mem _ hother, hfound⟩

end Cursor

namespace TokenStream

/-- So it is with the tokens of an input, and with the error that ends them. -/
lemma exists_lexeme_of_mem_ofString {input : String} {token : Located Token}
    (h : token ∈ (ofString input).tokens) :
    ∃ lexeme ∈ (Cursor.start input).lexemes, lexeme.start = token.offset
      ∧ lexeme.read = .ok token.value := by
  rw [ofString_eq] at h
  exact (Cursor.start input).exists_lexeme_of_mem_tokens token h

lemma exists_lexeme_of_ending {input : String} {error : LexicalError}
    (h : (ofString input).ending = .failure error) :
    ∃ lexeme ∈ (Cursor.start input).lexemes, lexeme.start = error.offset
      ∧ lexeme.read = .error error.value := by
  rw [ofString_eq] at h
  exact (Cursor.start input).exists_lexeme_of_failure error h

/-- A lexeme of an input parts it: what comes before it, and a rest that begins with it.  The seam
is not between two digits. -/
lemma exists_append_of_mem_lexemes {input : String} {lexeme : Lexeme}
    (h : lexeme ∈ (Cursor.start input).lexemes) :
    ∃ front rest : String, ∃ after, input = front ++ rest ∧ front.utf8ByteSize = lexeme.start
      ∧ ¬BetweenDigits front.toList rest.toList ∧ rest.toList = lexeme.text ++ after
      ∧ lexeme.WholeBefore after := by
  obtain ⟨front, after, htext, hstart, hwhole, hseam⟩ := Cursor.exists_append_of_mem_lexemes h
  have hinput : input.toList = front ++ (lexeme.text ++ after) := by
    rw [← List.append_assoc]
    exact htext
  refine ⟨String.ofList front, String.ofList (lexeme.text ++ after), after, ?_, ?_, ?_,
    String.toList_ofList, hwhole⟩
  · rw [← String.ofList_append, ← hinput, String.ofList_toList]
  · rw [← byteLength_toList, String.toList_ofList, hstart, Cursor.start, Nat.zero_add]
  · rw [String.toList_ofList, String.toList_ofList]
    exact hseam

/-- **What a stream tells of an input.** If the input ends it, at its last byte, then its tokens are
all that tokenizing gives.  If it ends with a lexical error, that is what tokenizing gives, and its
tokens are those of the text before. -/
def Renders (stream : TokenStream) (input : String) : Prop :=
  match stream.ending with
  | .endOfInput offset => tokenize input = .ok stream.tokens ∧ offset = input.utf8ByteSize
  | .failure error => tokenize input = .error error ∧ ∃ front rest, input = front ++ rest
      ∧ front.utf8ByteSize = error.offset ∧ tokenize front = .ok stream.tokens

/-- If a text ends where the error of the stream stands, its tokens are those of the stream. -/
lemma tokenize_of_append {front rest : String} (hseam : ¬BetweenDigits front.toList rest.toList)
    {error : LexicalError} (hending : (ofString (front ++ rest)).ending = .failure error)
    (hoffset : front.utf8ByteSize = error.offset) :
    tokenize front = .ok (ofString (front ++ rest)).tokens := by
  rw [tokenize_eq_ok_iff]
  rw [ofString_append hseam] at hending ⊢
  obtain ⟨hpairwise, hafter⟩ := Cursor.offsets_stream ⟨front.utf8ByteSize, rest.toList⟩
  generalize Cursor.stream ⟨front.utf8ByteSize, rest.toList⟩ = second at *
  obtain ⟨-, hbefore⟩ := offset_lt_ofString front
  generalize ofString front = first at *
  rcases first with ⟨tokens, offset | failure⟩
  · refine ⟨offset, ?_⟩
    -- a token of the second text would have to stand before its own beginning
    have hnone : second.tokens = [] := by
      refine List.eq_nil_iff_forall_not_mem.2 fun token hmem => ?_
      have hle : error.offset ≤ token.offset :=
        hoffset ▸ hafter _ (List.mem_append_left _ (List.mem_map_of_mem hmem))
      have hlt := offset_lt_ending hpairwise token hmem
      rw [show second.ending = .failure error from hending] at hlt
      exact absurd hlt (Nat.not_lt.2 hle)
    simp only [append, hnone, List.append_nil]
  · obtain rfl : failure = error := Ending.failure.inj hending
    exact absurd (hbefore failure rfl) (Nat.not_lt.2 (Nat.le_of_eq hoffset))

/-- **The stream of an input tells what tokenizing it gives.** -/
theorem renders_ofString (input : String) : (ofString input).Renders input := by
  rw [Renders]
  cases hending : (ofString input).ending with
  | endOfInput offset =>
      refine ⟨?_, offset_ofString hending⟩
      rw [tokenize_eq, collect, hending]
  | failure error =>
      refine ⟨by rw [tokenize_eq, collect, hending], ?_⟩
      obtain ⟨lexeme, hmem, hstart, -⟩ := exists_lexeme_of_ending hending
      obtain ⟨front, rest, -, rfl, hfront, hseam, -⟩ := exists_append_of_mem_lexemes hmem
      rw [hstart] at hfront
      exact ⟨front, rest, rfl, hfront, tokenize_of_append hseam hending hfront⟩

end TokenStream

/-! ## The alphabet -/

/-- The characters of which an expression can be made: the space, the digits and the symbols. -/
def alphabet : List Char :=
  [' ', '0', '1', '2', '3', '4', '5', '6', '7', '8', '9', '+', '-', '*', '/', '(', ')']

/-- The digits are in it. -/
lemma mem_alphabet_of_isDigit {c : Char} (h : c.isDigit) : c ∈ alphabet := by
  obtain ⟨hlow, hhigh⟩ : 48 ≤ c.toNat ∧ c.toNat < 58 := by
    simpa [Char.isDigit, UInt32.le_iff_toNat_le, Nat.lt_succ_iff] using h
  have hdigits : ∀ n < 58, 48 ≤ n → Char.ofNat n ∈ alphabet := by decide
  have hchar := hdigits c.toNat hhigh hlow
  rwa [Char.ofNat_toNat] at hchar

/-- The character of a symbol is no digit and no space, but it is in the alphabet. -/
lemma Token.IsSymbol.exists_char {token : Token} (h : token.IsSymbol) :
    ∃ c, token.text.toList = [c] ∧ ofSymbol? c = some token ∧ isSpace c = false
      ∧ c.isDigit = false ∧ c ∈ alphabet := by
  cases token with
  | operator op => exact ⟨op.symbol, by cases op <;> decide⟩
  | leftParen => exact ⟨'(', by decide⟩
  | rightParen => exact ⟨')', by decide⟩
  | number _ => exact h.elim
  | endOfInput => exact h.elim

/-- The symbols are in it. -/
lemma mem_alphabet_of_ofSymbol? {c : Char} {token : Token} (h : Token.ofSymbol? c = some token) :
    c ∈ alphabet := by
  obtain ⟨hsymbol, htext⟩ := Token.isSymbol_of_ofSymbol? h
  obtain ⟨c', htext', -, -, -, hmem⟩ := hsymbol.exists_char
  obtain rfl : c' = c := List.singleton_inj.1 (htext'.symm.trans htext)
  exact hmem

/-- **The alphabet**: the space, the digits and the symbols, and no other character. -/
theorem mem_alphabet_iff {c : Char} :
    c ∈ alphabet ↔ isSpace c ∨ c.isDigit ∨ (Token.ofSymbol? c).isSome := by
  constructor
  · intro h
    have hall : (alphabet.all fun c =>
        isSpace c || c.isDigit || (Token.ofSymbol? c).isSome) = true := by decide
    simpa [or_assoc] using List.all_eq_true.1 hall c h
  · rintro (hspace | hdigit | hsymbol)
    · obtain rfl : c = ' ' := by simpa [isSpace] using hspace
      decide
    · exact mem_alphabet_of_isDigit hdigit
    · obtain ⟨token, htoken⟩ := Option.isSome_iff_exists.1 hsymbol
      exact mem_alphabet_of_ofSymbol? htoken

/-- A lexeme that is a token is made of characters of the alphabet. -/
lemma Lexeme.WholeBefore.mem_alphabet {lexeme : Lexeme} {rest : List Char}
    (h : lexeme.WholeBefore rest) {token : Token} (hread : lexeme.read = .ok token) :
    ∀ c ∈ lexeme.text, c ∈ alphabet := by
  rw [Lexeme.text, List.forall_mem_cons]
  rw [Lexeme.read] at hread
  split at hread
  · rename_i hdigit
    refine ⟨mem_alphabet_of_isDigit hdigit, ?_⟩
    intro c hc
    exact mem_alphabet_of_isDigit ((h.digits hdigit).1 c hc)
  · rename_i hdigit
    rw [h.single hdigit]
    split at hread
    · rename_i token' htoken
      exact ⟨mem_alphabet_of_ofSymbol? htoken, List.forall_mem_nil _⟩
    · cases hread

/-- **A text that is tokenized to its end** is made of characters of the alphabet. -/
lemma Cursor.mem_alphabet_of_ending (cursor : Cursor) :
    ∀ offset, cursor.stream.ending = .endOfInput offset → ∀ c ∈ cursor.rest, c ∈ alphabet := by
  refine stream_induction (motive := fun cursor stream => ∀ offset,
    stream.ending = .endOfInput offset → ∀ c ∈ cursor.rest, c ∈ alphabet) ?_ ?_ ?_ cursor
  · intro cursor hscan _ _ c hc
    exact mem_alphabet_iff.2 (.inl (scan_eq_none_iff.1 hscan c hc))
  · intro cursor lexeme after fault _ _
    exact nofun
  · intro cursor lexeme after value hscan hread ih offset hending
    obtain ⟨blank, hblank, hwhole, hrest, -⟩ := scan_eq_some_iff.1 hscan
    rw [hrest]
    simp only [List.forall_mem_append]
    refine ⟨?_, hwhole.mem_alphabet hread, ih offset hending⟩
    intro c hc
    exact mem_alphabet_iff.2 (.inl (hblank c hc))

end Calculator
