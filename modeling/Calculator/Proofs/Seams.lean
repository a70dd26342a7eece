import Mathlib.Tactic.Common
import Calculator.Proofs.Lexemes
import Calculator.Proofs.Relocation

/-!
# Lexemes on both sides of a seam

Cutting a text into lexemes carries nothing over from one of them to the next, but for the digits of
a run.  So a text can be cut in two parts, each on its own, wherever the seam is not between two
digits, and the spans of the second part are shifted by the length of the first.

* **Shifting**: a text that stands further on has the same lexemes, `Cursor.lexemes_shift`.
* **Concatenation**: the lexemes of the whole are those of the parts, `Cursor.lexemes_append`.
  Hence a lexeme is found wherever a piece of the text stands whole, `Cursor.mem_lexemes_iff`.

`tokenize_append` says the same of the tokens.
-/

namespace Calculator

/-! ## Shifting -/

namespace Lexeme

/-- The same lexeme, so many bytes further on. -/
def shift (distance : Nat) (lexeme : Lexeme) : Lexeme :=
  { lexeme with start := lexeme.start + distance }

end Lexeme

namespace Cursor

@[simp]
lemma position_start (input : String) : (start input).position = 0 := rfl

@[simp]
lemma rest_start (input : String) : (start input).rest = input.toList := rfl

/-- **A text that stands further on is cut into the same lexemes**, each that much further on. -/
theorem lexemes_shift (cursor : Cursor) (distance : Nat) :
    lexemes ⟨cursor.position + distance, cursor.rest⟩
      = cursor.lexemes.map (Lexeme.shift distance) := by
  induction cursor using lexemes.induct with
  | case1 cursor hscan =>
      have hblank := scan_eq_none_iff.1 hscan
      have hscan' : scan ⟨cursor.position + distance, cursor.rest⟩ = none :=
        scan_eq_none_iff.2 hblank
      rw [lexemes_of_scan_eq_none hscan, lexemes_of_scan_eq_none hscan']
      rfl
  | case2 cursor lexeme after hscan _ ih =>
      rw [lexemes_of_scan_eq_some hscan, lexemes_of_scan_eq_some (scan_relocate hscan distance), ih]
      rfl

/-! ## Concatenation -/

/-- Spaces ahead do not change the lexemes. -/
lemma lexemes_congr {cursor other : Cursor} (h : cursor.skipSpaces = other.skipSpaces) :
    cursor.lexemes = other.lexemes := by
  have hscan := scan_congr h
  cases hother : other.scan with
  | none => rw [lexemes_of_scan_eq_none hother, lexemes_of_scan_eq_none (hscan.trans hother)]
  | some step =>
      rw [lexemes_of_scan_eq_some hother, lexemes_of_scan_eq_some (hscan.trans hother)]

/-- **The lexemes of a concatenation** are those of the first text and then those of the second, if
the seam is not between two digits. -/
theorem lexemes_append (cursor : Cursor) {rest : List Char}
    (hseam : ¬BetweenDigits cursor.rest rest) :
    lexemes ⟨cursor.position, cursor.rest ++ rest⟩
      = cursor.lexemes ++ lexemes ⟨cursor.position + byteLength cursor.rest, rest⟩ := by
  induction cursor using lexemes.induct with
  | case1 cursor hscan =>
      rw [lexemes_of_scan_eq_none hscan]
      exact lexemes_congr (skipSpaces_append cursor.position (scan_eq_none_iff.1 hscan) rest)
  | case2 cursor lexeme after hscan _ ih =>
      obtain ⟨happend, hseam'⟩ := scan_append hscan hseam
      rw [lexemes_of_scan_eq_some happend, lexemes_of_scan_eq_some hscan, ih hseam',
        (position_of_scan hscan).2.2, List.cons_append]

/-- **A lexeme is any piece of the text that stands whole in it.**  There is no choice in how a text
is cut. -/
theorem mem_lexemes_iff {cursor : Cursor} {lexeme : Lexeme} :
    lexeme ∈ cursor.lexemes ↔ ∃ front rest, cursor.rest = front ++ lexeme.text ++ rest
      ∧ lexeme.start = cursor.position + byteLength front ∧ lexeme.WholeBefore rest
      ∧ ¬BetweenDigits front lexeme.text := by
  refine ⟨exists_append_of_mem_lexemes, ?_⟩
  rintro ⟨front, rest, htext, hstart, hwhole, hseam⟩
  have hscan : scan ⟨cursor.position + byteLength front, lexeme.text ++ rest⟩
      = some (lexeme, ⟨lexeme.stop, rest⟩) :=
    scan_eq_some_iff.2 ⟨[], nofun, hwhole, rfl, hstart, rfl⟩
  -- at the seam is the first character of the lexeme, whatever comes after it
  have happend : lexemes ⟨cursor.position, front ++ (lexeme.text ++ rest)⟩
      = lexemes ⟨cursor.position, front⟩
        ++ lexemes ⟨cursor.position + byteLength front, lexeme.text ++ rest⟩ :=
    lexemes_append ⟨cursor.position, front⟩ hseam
  rw [← List.append_assoc, ← htext, lexemes_of_scan_eq_some hscan] at happend
  rw [happend]
  exact List.mem_append_right _ List.mem_cons_self

end Cursor

/-- The tokens of two streams one after the other. -/
lemma TokenStream.collect_append (first second : TokenStream) :
    (first.append second).collect
      = match first.collect, second.collect with
        | .error error, _ => .error error
        | .ok _, .error error => .error error
        | .ok before, .ok after => .ok (before ++ after) := by
  rcases first with ⟨before, _ | _⟩ <;> rcases second with ⟨after, _ | _⟩ <;> rfl

/-- **Cutting up a concatenation.** If the seam of two texts is not between two digits, the lexemes
of the whole are those of the first text and then those of the second, whether they are tokens or
not.  So tokenizing the whole gives the tokens of both, unless there is an error in the first text
or else one in the second.  What is in the second text is further on by the length of the first. -/
theorem tokenize_append {front back : String} (h : ¬BetweenDigits front.toList back.toList) :
    (Cursor.start (front ++ back)).lexemes
        = (Cursor.start front).lexemes
          ++ (Cursor.start back).lexemes.map (Lexeme.shift front.utf8ByteSize)
      ∧ tokenize (front ++ back)
        = match tokenize front, tokenize back with
          | .error error, _ => .error error
          | .ok _, .error error => .error (error.relocate (· + front.utf8ByteSize))
          | .ok before, .ok after =>
            .ok (before ++ after.map (Located.relocate (· + front.utf8ByteSize))) := by
  have hback : (⟨front.utf8ByteSize, back.toList⟩ : Cursor)
      = ⟨(Cursor.start back).position + front.utf8ByteSize, (Cursor.start back).rest⟩ := by
    rw [Cursor.position_start, Cursor.rest_start, Nat.zero_add]
  constructor
  · have happend := Cursor.lexemes_append (Cursor.start front) h
    rw [Cursor.position_start, Cursor.rest_start, byteLength_toList, Nat.zero_add, hback,
      Cursor.lexemes_shift] at happend
    rw [Cursor.start, String.toList_append]
    exact happend
  · rw [tokenize_eq, tokenize_eq, tokenize_eq, TokenStream.ofString_append h, hback,
      Cursor.stream_relocate, TokenStream.collect_append, TokenStream.collect_relocate]
    rw [← TokenStream.ofString_eq]
    cases (TokenStream.ofString front).collect <;> cases (TokenStream.ofString back).collect <;> rfl

/-- Cut inside a run of spaces, `12  34@` falls into a text that is tokenized and one that is
not. -/
theorem tokenize_append_spaces :
    ¬BetweenDigits "12 ".toList " 34@".toList
      ∧ (Cursor.start ("12 " ++ " 34@")).lexemes
        = [⟨0, '1', ['2']⟩, ⟨4, '3', ['4']⟩, ⟨6, '@', []⟩]
      ∧ tokenize ("12 " ++ " 34@") = .error ⟨.unrecognizedCharacter '@', 6⟩ := by
  have hseam : ¬BetweenDigits "12 ".toList " 34@".toList := by decide +kernel
  have hfront : (Cursor.start "12 ").lexemes = [⟨0, '1', ['2']⟩]
      ∧ tokenize "12 " = .ok [⟨.number 12, 0⟩] := by decide +kernel
  have hback : (Cursor.start " 34@").lexemes = [⟨1, '3', ['4']⟩, ⟨3, '@', []⟩]
      ∧ tokenize " 34@" = .error ⟨.unrecognizedCharacter '@', 3⟩ := by decide +kernel
  obtain ⟨hlexemes, htokens⟩ := tokenize_append hseam
  rw [hlexemes, htokens, hfront.1, hfront.2, hback.1, hback.2]
  exact ⟨hseam, rfl, rfl⟩

end Calculator
