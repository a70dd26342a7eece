import Mathlib.Tactic.Common
import Calculator.Proofs.Printing
import Calculator.Proofs.Values

/-!
# Texts inside other texts

What a text means does not depend on where it stands.  A text that is tokenized on its own gives the
same tokens inside a longer one, as long as no run of digits goes on across a seam; and if it has a
value, then in parentheses it is an operand with that value, wherever it stands.

* **Pieces**: `Tokenizes` says what a text is made of where it stands.  Pieces are put together next
  to a symbol without further ado, `Tokenizes.join`.
* **Groups**, `exists_group`: a text that has a value can be put in parentheses.
* **Size**: there are no more tokens than bytes, `Tokenizes.length_le`, and no more groups in each
  other than tokens, `Tree.depth_le_length`.
-/

namespace Calculator

/-! ## Seams -/

namespace Token.IsSymbol

variable {token : Token}

/-- A symbol can stand before any text. -/
lemma not_betweenDigits_left (h : token.IsSymbol) (front : String) (right : List Char) :
    ¬BetweenDigits (front ++ token.text).toList right := by
  obtain ⟨c, htext, -, -, hdigit, -⟩ := h.exists_char
  refine not_betweenDigits_of_getLast? ?_ right
  simpa [String.toList_append, htext] using hdigit

/-- It can stand after any text. -/
lemma not_betweenDigits_right (h : token.IsSymbol) (left : List Char) (back : String) :
    ¬BetweenDigits left (token.text ++ back).toList := by
  obtain ⟨c, htext, -, -, hdigit, -⟩ := h.exists_char
  refine not_betweenDigits_of_head? ?_ left
  simpa [String.toList_append, htext] using hdigit

lemma readable (h : token.IsSymbol) : token.Readable := by
  cases token with
  | number _ => exact h.elim
  | _ => exact h

lemma utf8ByteSize_text (h : token.IsSymbol) : token.text.utf8ByteSize = 1 := by
  cases token with
  | operator op => cases op <;> rfl
  | leftParen => rfl
  | rightParen => rfl
  | number _ => exact h.elim
  | endOfInput => exact h.elim

end Token.IsSymbol

/-! ## Pieces -/

/-- The text, where it stands from a position on, is made of these tokens and of spaces. -/
def Tokenizes (position : Nat) (text : String) (tokens : List (Located Token)) : Prop :=
  Cursor.stream ⟨position, text.toList⟩ = ⟨tokens, .endOfInput (position + text.utf8ByteSize)⟩

/-- No text begins with more tokens than it has bytes. -/
lemma Cursor.length_tokens_stream (cursor : Cursor) :
    cursor.stream.tokens.length ≤ byteLength cursor.rest := by
  refine stream_induction (motive := fun cursor stream =>
    stream.tokens.length ≤ byteLength cursor.rest) ?_ ?_ ?_ cursor
  · intro cursor _
    exact Nat.zero_le _
  · intro cursor lexeme after fault _ _
    exact Nat.zero_le _
  · intro cursor lexeme after token hscan _ ih
    obtain ⟨hstart, hstop, htotal⟩ := position_of_scan hscan
    simp only [List.length_cons]
    omega

namespace Tokenizes

variable {position : Nat} {front back text : String} {first second tokens : List (Located Token)}

/-- What stands at the beginning is tokenized on its own. -/
lemma zero_iff : Tokenizes 0 text tokens ↔ tokenize text = .ok tokens := by
  refine ⟨fun h => tokenize_eq_ok_iff.2 ⟨_, (TokenStream.ofString_eq text).trans h⟩, fun h => ?_⟩
  obtain ⟨offset, hstream⟩ := tokenize_eq_ok_iff.1 h
  obtain rfl : offset = text.utf8ByteSize := TokenStream.offset_ofString (by rw [hstream])
  rw [Tokenizes, Nat.zero_add]
  exact (TokenStream.ofString_eq text).symm.trans hstream

/-- What is tokenized on its own is so anywhere. -/
lemma of_tokenize (h : tokenize text = .ok tokens) (position : Nat) :
    Tokenizes position text (tokens.map (Located.relocate (· + position))) := by
  have hmoved := Cursor.stream_relocate ⟨0, text.toList⟩ position
  rw [zero_iff.2 h, Nat.zero_add, Nat.zero_add] at hmoved
  rw [Tokenizes, hmoved, Nat.add_comm position]
  rfl

/-- **Tokens that are printed**, each in its place. -/
lemma print {pieces : List Spaced} (hreadable : ∀ piece ∈ pieces, piece.token.Readable)
    (hseparated : Spaced.Separated pieces) (trailing position : Nat) :
    Tokenizes position (Spaced.print pieces trailing) (Spaced.placed position pieces) := by
  obtain ⟨offset, hstream⟩ := Spaced.stream_print hreadable hseparated trailing position
  have hoffset := Cursor.offset_stream _ offset (by rw [hstream])
  rw [byteLength_toList] at hoffset
  rw [Tokenizes, hstream, hoffset]

lemma symbol {token : Token} (h : token.IsSymbol) (position : Nat) :
    Tokenizes position token.text [⟨token, position⟩] := by
  have hreadable : ∀ piece ∈ [Spaced.mk 0 token], piece.token.Readable :=
    List.forall_mem_singleton.2 h.readable
  have hprint := print hreadable (List.isChain_singleton _) 0 position
  simpa [Spaced.print, Spaced.placed, spaces] using hprint

/-- **What comes after a piece** is read on from its end. -/
lemma stream_append (h : Tokenizes position front first) {rest : List Char}
    (hseam : ¬BetweenDigits front.toList rest) :
    Cursor.stream ⟨position, front.toList ++ rest⟩
      = ⟨first ++ (Cursor.stream ⟨position + front.utf8ByteSize, rest⟩).tokens,
        (Cursor.stream ⟨position + front.utf8ByteSize, rest⟩).ending⟩ := by
  have happend := Cursor.stream_append ⟨position, front.toList⟩ hseam
  simp only [byteLength_toList] at happend
  rw [happend, h]
  rfl

lemma append (h : Tokenizes position front first)
    (h' : Tokenizes (position + front.utf8ByteSize) back second)
    (hseam : ¬BetweenDigits front.toList back.toList) :
    Tokenizes position (front ++ back) (first ++ second) := by
  rw [Tokenizes, String.toList_append, h.stream_append hseam, h', String.utf8ByteSize_append,
    Nat.add_assoc]

/-- **Two pieces and a symbol between them.** -/
lemma join (token : Token) (hsymbol : token.IsSymbol) (h : Tokenizes position front first)
    (h' : Tokenizes (position + front.utf8ByteSize + 1) back second) :
    Tokenizes position (front ++ token.text ++ back)
      (first ++ ⟨token, position + front.utf8ByteSize⟩ :: second) := by
  have hleft : ¬BetweenDigits token.text.toList back.toList := by
    simpa using hsymbol.not_betweenDigits_left "" back.toList
  rw [← hsymbol.utf8ByteSize_text] at h'
  rw [String.append_assoc]
  exact h.append ((symbol hsymbol _).append h' hleft) (hsymbol.not_betweenDigits_right _ back)

lemma nil (position : Nat) : Tokenizes position "" [] := by
  have hreadable : ∀ piece ∈ ([] : List Spaced), piece.token.Readable := nofun
  exact print hreadable List.isChain_nil 0 position

/-- A piece has no more tokens than bytes. -/
lemma length_le (h : Tokenizes position text tokens) : tokens.length ≤ text.utf8ByteSize := by
  have hlength := Cursor.length_tokens_stream ⟨position, text.toList⟩
  rwa [h, byteLength_toList] at hlength

end Tokenizes

/-! ## Groups -/

/-- There are no more groups in each other than there are tokens. -/
lemma Tree.depth_le_length {notion : Notion} (tree : Tree notion) :
    tree.depth ≤ tree.tokens.length := by
  induction tree with
  | number value offset => exact Nat.zero_le _
  | group opening inner closing ih =>
      simp only [depth, tokens, List.length_cons, List.length_append]
      omega
  | factor only ih => exact ih
  | product left op binds offset right ihl ihr =>
      simp only [depth, tokens, List.length_cons, List.length_append]
      omega
  | term only ih => exact ih
  | sum left op binds offset right ihl ihr =>
      simp only [depth, tokens, List.length_cons, List.length_append]
      omega

namespace Tree

/-- A factor is a phrase of each notion. -/
def lift (only : Tree .factor) : (notion : Notion) → Tree notion
  | .factor => only
  | .term => .factor only
  | .expression => .term (.factor only)

lemma tokens_lift (only : Tree .factor) (notion : Notion) :
    (only.lift notion).tokens = only.tokens := by
  cases notion <;> rfl

lemma depth_lift (only : Tree .factor) (notion : Notion) :
    (only.lift notion).depth = only.depth := by
  cases notion <;> rfl

lemma yields_lift {only : Tree .factor} {notion : Notion} {value : Int} :
    (only.lift notion).Yields value ↔ only.Yields value := by
  cases notion <;> rfl

end Tree

/-- **A text that has a value, put in parentheses, is a phrase of each notion with that value**,
wherever it stands. -/
theorem exists_group {limit : Nat} {text : String} {value : Int}
    (h : evaluateWithin limit text = .ok value) (position : Nat) (notion : Notion) :
    ∃ tree : Tree notion, Tokenizes position ("(" ++ text ++ ")") tree.tokens
      ∧ tree.depth ≤ limit + 1 ∧ tree.Yields value := by
  obtain ⟨inner, htokens, hdepth, hyields⟩ := exists_tree_of_evaluateWithin h
  have hinner := Tokenizes.of_tokenize htokens (position + 1)
  rw [← Tree.tokens_relocate] at hinner
  have hopened : Tokenizes position ("" ++ "(" ++ text) _ :=
    (Tokenizes.nil position).join .leftParen trivial hinner
  have hclosed : Tokenizes position ("" ++ "(" ++ text ++ ")" ++ "") _ :=
    hopened.join .rightParen trivial (Tokenizes.nil _)
  rw [String.empty_append, String.append_empty] at hclosed
  let group : Tree .factor := .group position (inner.relocate (· + (position + 1)))
    (position + ("(" ++ text).utf8ByteSize)
  refine ⟨group.lift notion, ?_, ?_, Tree.yields_lift.2 ((inner.yields_relocate _).2 hyields)⟩
  · rw [Tree.tokens_lift]
    exact hclosed
  · rw [Tree.depth_lift]
    show (inner.relocate _).depth + 1 ≤ limit + 1
    rw [Tree.depth_relocate]
    exact Nat.succ_le_succ hdepth

end Calculator
