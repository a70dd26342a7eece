import Mathlib.Data.List.Chain
import Mathlib.Tactic.Common
import Calculator.Proofs.Tiling

/-!
# Printing tokens

Tokens can be printed one after the other with any number of spaces around them.  The spaces are
free but for one thing: two numbers must not run together.

* **Printing**: `Spaced.print` prints tokens, each after its own spaces, and `Spaced.placed` says
  where their texts come to stand.
* **One token**: the text of a token is a lexeme that is read as that token,
  `Token.Readable.exists_spells`, if no digit comes after a number.
* **All tokens**: the stream of what is printed is made of the tokens in their places,
  `Spaced.stream_print`.

Each token that is found in an input can be printed, so what has been tokenized can be printed and
tokenized again: `tokenize_print`.
-/

namespace Calculator

/-! ## Printing -/

/-- A token that is to be printed after so many spaces. -/
structure Spaced where
  gap : Nat
  token : Token

namespace Spaced

/-- Print tokens one after the other, each after its own spaces, and then some more spaces. -/
def print : List Spaced → Nat → String
  | [], trailing => spaces trailing
  | piece :: pieces, trailing => spaces piece.gap ++ piece.token.text ++ print pieces trailing

/-- The tokens in the places where their texts are printed, from a byte position on. -/
def placed (position : Nat) : List Spaced → List (Located Token)
  | [] => []
  | piece :: pieces =>
    ⟨piece.token, position + piece.gap⟩
      :: placed (position + piece.gap + piece.token.text.utf8ByteSize) pieces

/-- Between two numbers there is at least one space. -/
def Separated (pieces : List Spaced) : Prop :=
  pieces.IsChain fun first second =>
    first.token.kind = .number → second.token.kind = .number → 0 < second.gap

instance (pieces : List Spaced) : Decidable (Separated pieces) :=
  inferInstanceAs (Decidable (List.IsChain _ pieces))

/-- Printing leaves the tokens as they are. -/
lemma map_value_placed (position : Nat) (pieces : List Spaced) :
    (placed position pieces).map (·.value) = pieces.map (·.token) := by
  induction pieces generalizing position with
  | nil => rfl
  | cons piece pieces ih => exact congrArg _ (ih _)

end Spaced

/-! ## One token -/

/-- A token that can be found in an input: a symbol, or a number that is not negative and in
range. -/
def Token.Readable : Token → Prop
  | .number n => 0 ≤ n ∧ n ≤ maxNumber
  | token => token.IsSymbol

instance : (token : Token) → Decidable token.Readable
  | .number n => inferInstanceAs (Decidable (0 ≤ n ∧ n ≤ maxNumber))
  | .operator _ | .leftParen | .rightParen => .isTrue trivial
  | .endOfInput => .isFalse id

/-- The lexeme is the text of the token and is read as this token, and it stands whole before any
text that does not go on with the digits of a number. -/
structure Lexeme.Spells (lexeme : Lexeme) (token : Token) : Prop where
  text_eq : lexeme.text = token.text.toList
  read_eq : lexeme.read = .ok token
  wholeBefore : ∀ rest : List Char,
    (token.kind = .number → ∀ c ∈ rest.head?, ¬c.isDigit) → lexeme.WholeBefore rest

/-- Digits spell a number. -/
lemma exists_spells_number {n : Nat} (h : n ≤ maxNumber) (start : Nat) :
    ∃ lexeme : Lexeme, lexeme.start = start ∧ lexeme.Spells (.number n) := by
  obtain ⟨lexeme, hstart, htext⟩ := Lexeme.exists_of_ne_nil (Decimal.digits_ne_nil n) start
  have hdigits : ∀ c ∈ lexeme.text, c.isDigit := by
    rw [htext]
    exact fun c => Decimal.isDigit_of_mem_digits
  have hvalue : Decimal.value lexeme.text = n := by rw [htext, Decimal.value_digits]
  have hread := Lexeme.read_of_le (hdigits _ List.mem_cons_self) (by rw [hvalue]; exact h)
  rw [hvalue] at hread
  refine ⟨lexeme, hstart, htext.trans String.toList_ofList.symm, hread, ?_⟩
  intro rest hrest
  have hrun : MaximalRun [] lexeme.text rest :=
    ⟨List.cons_ne_nil _ _, hdigits, nofun, hrest rfl⟩
  exact (Lexeme.of_maximalRun hrun).1

/-- A single character spells a symbol. -/
lemma Token.IsSymbol.exists_spells {token : Token} (h : token.IsSymbol) (start : Nat) :
    ∃ lexeme : Lexeme, lexeme.start = start ∧ lexeme.Spells token := by
  obtain ⟨c, htext, hsymbol, hspace, hdigit, -⟩ := h.exists_char
  have hdigit' : ¬c.isDigit := by simp [hdigit]
  refine ⟨⟨start, c, []⟩, rfl, htext.symm, ?_, fun rest _ => ⟨hspace, ?_, fun _ => rfl⟩⟩
  · rw [Lexeme.read, if_neg hdigit', hsymbol]
  · exact fun hc => absurd hc hdigit'

lemma Token.Readable.isSymbol {token : Token} (h : token.Readable) (hkind : token.kind ≠ .number) :
    token.IsSymbol := by
  cases token with
  | number n => exact absurd rfl hkind
  | _ => exact h

/-- **Each token that can be found is spelled by a lexeme.** -/
lemma Token.Readable.exists_spells {token : Token} (h : token.Readable) (start : Nat) :
    ∃ lexeme : Lexeme, lexeme.start = start ∧ lexeme.Spells token := by
  by_cases hkind : token.kind = .number
  · cases token with
    | number n =>
        obtain ⟨hpos, hrange⟩ := h
        obtain ⟨m, rfl⟩ := Int.eq_ofNat_of_zero_le hpos
        exact exists_spells_number hrange start
    | _ => cases hkind
  · exact (h.isSymbol hkind).exists_spells start

/-- Conversely, each token that is found can be printed. -/
lemma Lexeme.readable_of_read {lexeme : Lexeme} {token : Token} (h : lexeme.read = .ok token) :
    token.Readable := by
  rw [read] at h
  split at h
  · split at h
    · rename_i hrange
      cases h
      exact ⟨Int.natCast_nonneg _, hrange⟩
    · cases h
  · split at h
    · rename_i htoken
      cases h
      obtain ⟨hsymbol, -⟩ := Token.isSymbol_of_ofSymbol? htoken
      cases token with
      | number _ => exact hsymbol.elim
      | _ => exact hsymbol
    · cases h

/-! ## All tokens -/

namespace Spaced

lemma print_cons (piece : Spaced) (pieces : List Spaced) (trailing : Nat) :
    (print (piece :: pieces) trailing).toList = List.replicate piece.gap ' '
      ++ (piece.token.text.toList ++ (print pieces trailing).toList) := by
  rw [print, String.toList_append, String.toList_append, spaces, String.toList_ofList,
    List.append_assoc]

/-- After spaces, or none, comes no digit if none comes where there are no spaces. -/
lemma not_isDigit_of_head?_replicate {n : Nat} {rest : List Char}
    (h : n = 0 → ∀ c ∈ rest.head?, ¬c.isDigit) :
    ∀ c ∈ (List.replicate n ' ' ++ rest).head?, ¬c.isDigit := by
  cases n with
  | zero => exact h rfl
  | succ n =>
      rintro c ⟨⟩
      decide

/-- **What is printed after a number does not go on with a digit.** -/
lemma not_isDigit_of_head?_print {piece : Spaced} {pieces : List Spaced}
    (hreadable : ∀ later ∈ pieces, later.token.Readable) (hseparated : Separated (piece :: pieces))
    (trailing : Nat) (hkind : piece.token.kind = .number) :
    ∀ c ∈ (print pieces trailing).toList.head?, ¬c.isDigit := by
  cases pieces with
  | nil =>
      rw [print, spaces, String.toList_ofList, ← List.append_nil (List.replicate _ _)]
      exact not_isDigit_of_head?_replicate fun _ => by simp
  | cons next later =>
      rw [print_cons]
      refine not_isDigit_of_head?_replicate fun hgap => ?_
      -- with no space between them, what comes after a number is a symbol
      have hnext : next.token.kind ≠ .number := fun hnext =>
        Nat.ne_of_gt ((List.isChain_cons_cons.1 hseparated).1 hkind hnext) hgap
      have hsymbol := (hreadable next List.mem_cons_self).isSymbol hnext
      obtain ⟨c, htext, -, -, hdigit, -⟩ := hsymbol.exists_char
      rw [htext]
      rintro d ⟨⟩
      simp [hdigit]

/-- **The stream of what is printed** is made of the tokens in their places. -/
theorem stream_print {pieces : List Spaced} (hreadable : ∀ piece ∈ pieces, piece.token.Readable)
    (hseparated : Separated pieces) (trailing position : Nat) :
    ∃ offset, Cursor.stream ⟨position, (print pieces trailing).toList⟩
      = ⟨placed position pieces, .endOfInput offset⟩ := by
  induction pieces generalizing position with
  | nil =>
      have hscan : Cursor.scan ⟨position, (print [] trailing).toList⟩ = none := by
        rw [Cursor.scan_eq_none_iff, print, spaces, String.toList_ofList]
        exact fun c => isSpace_of_mem_replicate
      exact ⟨_, Cursor.stream_of_scan_eq_none hscan⟩
  | cons piece pieces ih =>
      rw [List.forall_mem_cons] at hreadable
      obtain ⟨lexeme, hstart, hspells⟩ := hreadable.1.exists_spells (position + piece.gap)
      have hscan : Cursor.scan ⟨position, (print (piece :: pieces) trailing).toList⟩
          = some (lexeme, ⟨lexeme.stop, (print pieces trailing).toList⟩) := by
        refine Cursor.scan_eq_some_iff.2 ⟨List.replicate piece.gap ' ',
          fun c => isSpace_of_mem_replicate, hspells.wholeBefore _ ?_, ?_, ?_, rfl⟩
        · exact not_isDigit_of_head?_print hreadable.2 hseparated trailing
        · rw [print_cons, hspells.text_eq]
        · rw [hstart, byteLength_replicate]
      obtain ⟨offset, hstream⟩ :=
        ih hreadable.2 (List.isChain_of_isChain_cons hseparated) lexeme.stop
      have hstop : lexeme.stop = position + piece.gap + piece.token.text.utf8ByteSize := by
        rw [Lexeme.stop, hstart, hspells.text_eq, byteLength_toList]
      rw [Cursor.stream_of_read_eq_ok hscan hspells.read_eq, hstream, hstop, hstart, placed]
      exact ⟨offset, rfl⟩

end Spaced

/-- **Tokenizing undoes printing.** Tokens that can be found in an input are tokenized just as they
have been printed, each in its place, if at least one space separates two numbers.  So what has been
found in an input can be printed, and tokenizing finds the same again. -/
theorem tokenize_print {pieces : List Spaced} (hseparated : Spaced.Separated pieces)
    (trailing : Nat) :
    ((∀ piece ∈ pieces, piece.token.Readable) →
        tokenize (Spaced.print pieces trailing) = .ok (Spaced.placed 0 pieces))
      ∧ ∀ input tokens, tokenize input = .ok tokens →
          pieces.map (·.token) = tokens.map (·.value) →
            ∃ again, tokenize (Spaced.print pieces trailing) = .ok again
              ∧ again.map (·.value) = tokens.map (·.value) := by
  have hprint : (∀ piece ∈ pieces, piece.token.Readable) →
      tokenize (Spaced.print pieces trailing) = .ok (Spaced.placed 0 pieces) := by
    intro hreadable
    rw [tokenize_eq_ok_iff, TokenStream.ofString_eq]
    exact Spaced.stream_print hreadable hseparated trailing 0
  refine ⟨hprint, ?_⟩
  intro input tokens htokenize htokens
  have hreadable : ∀ piece ∈ pieces, piece.token.Readable := by
    intro piece hmem
    have hvalue : piece.token ∈ tokens.map (·.value) := htokens ▸ List.mem_map_of_mem hmem
    obtain ⟨token, htoken, heq⟩ := List.mem_map.1 hvalue
    obtain ⟨offset, hstream⟩ := tokenize_eq_ok_iff.1 htokenize
    obtain ⟨lexeme, -, -, hread⟩ := TokenStream.exists_lexeme_of_mem_ofString
      (show token ∈ (TokenStream.ofString input).tokens by rw [hstream]; exact htoken)
    rw [← heq]
    exact Lexeme.readable_of_read hread
  exact ⟨_, hprint hreadable, (Spaced.map_value_placed 0 pieces).trans htokens⟩

/-- A symbol needs no spaces, but the number after another number does. -/
theorem tokenize_print_numbers :
    tokenize " 9223372036854775807-0  12 "
        = .ok [⟨.number 9223372036854775807, 1⟩, ⟨.operator .sub, 20⟩, ⟨.number 0, 21⟩,
          ⟨.number 12, 24⟩]
      ∧ ∃ again, tokenize " 9223372036854775807-0  12 " = .ok again
        ∧ again.map (·.value)
          = [.number 9223372036854775807, .operator .sub, .number 0, .number 12] := by
  let pieces : List Spaced :=
    [⟨1, .number 9223372036854775807⟩, ⟨0, .operator .sub⟩, ⟨0, .number 0⟩, ⟨2, .number 12⟩]
  have hprint : Spaced.print pieces 1 = " 9223372036854775807-0  12 " := by decide +kernel
  have hseparated : Spaced.Separated pieces := by decide
  have hreadable : ∀ piece ∈ pieces, piece.token.Readable := by decide
  have hinput : tokenize "9223372036854775807 - 00 12"
      = .ok [⟨.number 9223372036854775807, 0⟩, ⟨.operator .sub, 20⟩, ⟨.number 0, 22⟩,
        ⟨.number 12, 25⟩] := by decide +kernel
  obtain ⟨hplaced, hagain⟩ := tokenize_print hseparated 1
  rw [hprint] at hplaced hagain
  refine ⟨(hplaced hreadable).trans ?_, hagain _ _ hinput rfl⟩
  decide +kernel

end Calculator
