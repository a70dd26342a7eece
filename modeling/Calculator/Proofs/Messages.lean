import Mathlib.Tactic.Common
import Calculator.Fault
import Calculator.Proofs.Concatenation

/-!
# Messages tell errors apart

Two errors with one message are one error: whatever an error carries can be read off its message
again.

* **Numerals** end where the digits end, so a number can be told from a text that begins with its
  numeral: `Decimal.digits_append_inj`.
* **Characters** are quoted in three ways, by name, by code point or as they are, and no two of them
  look alike: `Quoted.character_injective`.
* **Faults**: each explanation has a form, which is settled by its opening words, and a detail after
  them.  No opening is the beginning of another, `Fault.Form.eq_of_opening`, so an explanation tells
  both, and both together tell the fault: `Fault.explanation_injective`.

`EvaluationError.message_injective` adds the offset, with which every message begins.
-/

namespace Calculator

/-! ## Numerals -/

/-- **A numeral ends where the digits end.** -/
lemma Decimal.digits_append_inj {m n : Nat} {text other : List Char}
    (htext : ∀ c ∈ text.head?, ¬c.isDigit) (hother : ∀ c ∈ other.head?, ¬c.isDigit)
    (h : digits m ++ text = digits n ++ other) : m = n ∧ text = other := by
  obtain ⟨htake, hdrop⟩ := (takeWhile_eq_and_dropWhile_eq_iff (p := Char.isDigit)).2
    ⟨rfl, fun c => isDigit_of_mem_digits (n := m), htext⟩
  obtain ⟨htake', hdrop'⟩ := (takeWhile_eq_and_dropWhile_eq_iff (p := Char.isDigit)).2
    ⟨rfl, fun c => isDigit_of_mem_digits (n := n), hother⟩
  rw [h] at htake hdrop
  exact ⟨digits_inj (htake.symm.trans htake'), hdrop.symm.trans hdrop'⟩

lemma Decimal.ofNat_injective {m n : Nat} (h : ofNat m = ofNat n) : m = n :=
  digits_inj (String.ofList_inj.1 h)

/-- In base sixteen, a numeral is the numeral of all but the last digit, if there is more than one,
and then the last digit. -/
lemma toDigits_sixteen_eq (n : Nat) :
    Nat.toDigits 16 n
      = (if n < 16 then [] else Nat.toDigits 16 (n / 16)) ++ [(n % 16).digitChar] := by
  rw [Nat.toDigits_eq_if (by decide)]
  split
  · rename_i hn
    rw [Nat.mod_eq_of_lt hn]
    rfl
  · rfl

/-- In base sixteen too, two numbers with one numeral are equal. -/
lemma toDigits_sixteen_inj {m n : Nat} (h : Nat.toDigits 16 m = Nat.toDigits 16 n) : m = n := by
  have hdigit : ∀ d < 16, ∀ e < 16, d.digitChar = e.digitChar → d = e := by decide
  induction m using Nat.strongRecOn generalizing n with
  | ind m ih =>
      rw [toDigits_sixteen_eq m, toDigits_sixteen_eq n] at h
      obtain ⟨hfront, hlast⟩ := List.append_inj' h rfl
      have hmod := hdigit _ (Nat.mod_lt m (by decide)) _ (Nat.mod_lt n (by decide))
        (List.singleton_inj.1 hlast)
      split at hfront <;> split at hfront
      · omega
      · exact absurd hfront.symm Nat.toDigits_ne_nil
      · exact absurd hfront Nat.toDigits_ne_nil
      · have hdiv := ih (m / 16) (by omega) hfront
        omega

/-! ## Characters -/

namespace Quoted

/-- The characters with short names, and these names, where single quotes enclose the quotation. -/
def shortNames : List (Char × Char) :=
  [('\x00', '0'), ('\x09', 't'), ('\x0a', 'n'), ('\x0d', 'r'), ('\x27', '\x27'),
   ('\x5c', '\x5c')]

lemma mem_shortNames {c name : Char} (h : shortName? '\x27' c = some name) :
    (c, name) ∈ shortNames := by
  unfold shortName? at h
  split_ifs at h <;> cases h <;> simp_all [shortNames]

/-- No name is that of two characters. -/
lemma shortNames_inj : ∀ first ∈ shortNames, ∀ second ∈ shortNames,
    first.2 = second.2 → first.1 = second.1 := by decide

/-- **The three ways to quote a character.** -/
lemma body_cases (c : Char) :
    (∃ name, (c, name) ∈ shortNames ∧ body '\x27' c = ['\x5c', name])
      ∨ body '\x27' c = '\x5c' :: 'u' :: '\x7b' :: (hexadecimal c ++ ['\x7d'])
      ∨ body '\x27' c = [c] := by
  rw [body]
  split
  · rename_i name hname
    exact .inl ⟨name, mem_shortNames hname, rfl⟩
  · split
    · exact .inr (.inl rfl)
    · exact .inr (.inr rfl)

/-- **No two characters are quoted alike.** -/
theorem body_injective {c d : Char} (h : body '\x27' c = body '\x27' d) : c = d := by
  -- two different ways take different numbers of characters
  rcases body_cases c with ⟨name, hname, hc⟩ | hc | hc <;>
    rcases body_cases d with ⟨name', hname', hd⟩ | hd | hd <;> simp [hc, hd] at h
  · exact shortNames_inj _ hname _ hname' h
  · exact Char.toNat_inj.1 (toDigits_sixteen_inj h)
  · exact h

/-- So a quoted character is one character. -/
lemma character_injective {c d : Char} (h : character c = character d) : c = d := by
  rw [character, character, String.ofList_inj, List.cons.injEq] at h
  exact body_injective (List.append_cancel_right h.2)

end Quoted

/-! ## Faults -/

/-- All kinds of tokens. -/
def Token.Kind.all : List Kind :=
  [.number, .operator .add, .operator .sub, .operator .mul, .operator .div, .leftParen, .rightParen,
   .endOfInput]

lemma Token.Kind.mem_all (kind : Kind) : kind ∈ all := by
  rcases kind with _ | (_ | _ | _ | _) | _ | _ | _ <;> decide

/-- No two kinds have one description. -/
lemma Token.Kind.description_injective {kind other : Kind}
    (h : kind.description = other.description) : kind = other := by
  have hall : ∀ kind ∈ all, ∀ other ∈ all, kind.description = other.description → kind = other := by
    decide +kernel
  exact hall kind kind.mem_all other other.mem_all h

namespace Fault

/-- The form of an explanation. -/
inductive Form where
  | unrecognizedCharacter
  | literalTooLarge
  | unexpectedToken (expected : Token.Kind)
  | expectedClosingParen
  | expectedOperand
  | unexpectedTrailingInput
  | divisionByZero
  | overflow
  | nestingTooDeep
deriving DecidableEq

namespace Form

/-- All forms of explanations. -/
def all : List Form :=
  [.unrecognizedCharacter, .literalTooLarge, .expectedClosingParen, .expectedOperand,
   .unexpectedTrailingInput, .divisionByZero, .overflow, .nestingTooDeep]
    ++ Token.Kind.all.map .unexpectedToken

lemma mem_all (form : Form) : form ∈ all := by
  rcases form with _ | _ | expected | _ | _ | _ | _ | _ | _
  case unexpectedToken =>
    exact List.mem_append_right _ (List.mem_map_of_mem expected.mem_all)
  all_goals decide

/-- The words with which an explanation of the form opens, up to where its detail begins. -/
def opening : Form → String
  | .unrecognizedCharacter => "Unrecognized character "
  | .literalTooLarge => "Literal "
  | .unexpectedToken expected => "Expected " ++ expected.description ++ ", found "
  | .expectedClosingParen => "Expected closing parenthesis ')' but found "
  | .expectedOperand => "Expected number or '(', found "
  | .unexpectedTrailingInput => "Unexpected trailing input starting with "
  | .divisionByZero => "Division by zero."
  | .overflow => "Integer overflow while trying to compute result."
  | .nestingTooDeep => "Parentheses nested deeper than "

/-- **No opening is the beginning of another.** -/
theorem eq_of_opening {form other : Form} {rest : List Char}
    (h : form.opening.toList ++ rest = other.opening.toList) : form = other := by
  have hall : ∀ form ∈ all, ∀ other ∈ all,
      form.opening.toList <+: other.opening.toList → form = other := by decide +kernel
  exact hall form form.mem_all other other.mem_all ⟨rest, h⟩

end Form

/-- The form in which a fault is explained. -/
def form : Fault → Form
  | .lexical (.unrecognizedCharacter _) => .unrecognizedCharacter
  | .lexical (.literalTooLarge _) => .literalTooLarge
  | .syntactic (.unexpectedToken expected _) => .unexpectedToken expected
  | .syntactic (.expectedClosingParen _) => .expectedClosingParen
  | .syntactic (.expectedOperand _) => .expectedOperand
  | .syntactic (.unexpectedTrailingInput _) => .unexpectedTrailingInput
  | .runtime .divisionByZero => .divisionByZero
  | .runtime .overflow => .overflow
  | .runtime (.nestingTooDeep _) => .nestingTooDeep

/-- What an explanation says after its opening words. -/
def detail : Fault → String
  | .lexical (.unrecognizedCharacter c) => Quoted.character c ++ "."
  | .lexical (.literalTooLarge literal) => literal ++ " is too large."
  | .syntactic fault => fault.found.description ++ "."
  | .runtime .divisionByZero => ""
  | .runtime .overflow => ""
  | .runtime (.nestingTooDeep limit) => Decimal.ofNat limit ++ " levels."

/-- An explanation consists of its opening words and its detail. -/
lemma explanation_eq : ∀ fault : Fault,
    fault.explanation = fault.form.opening ++ fault.detail
  | .lexical (.unrecognizedCharacter _) => String.append_assoc
  | .lexical (.literalTooLarge _) => String.append_assoc
  | .syntactic (.unexpectedToken _ _) => String.append_assoc
  | .syntactic (.expectedClosingParen _) => String.append_assoc
  | .syntactic (.expectedOperand _) => String.append_assoc
  | .syntactic (.unexpectedTrailingInput _) => String.append_assoc
  | .runtime .divisionByZero => String.append_empty.symm
  | .runtime .overflow => String.append_empty.symm
  | .runtime (.nestingTooDeep _) => String.append_assoc

/-- Two explanations of one form differ in their details. -/
lemma eq_of_form_of_detail {fault other : Fault} (hform : fault.form = other.form)
    (hdetail : fault.detail = other.detail) : fault = other := by
  rcases fault with (c | literal) | (⟨expected, found⟩ | found | found | found) | (_ | _ | limit) <;>
    rcases other with (d | literal') | (⟨expected', found'⟩ | found' | found' | found')
      | (_ | _ | limit') <;> cases hform
  · obtain rfl := Quoted.character_injective ((String.append_left_inj _).1 hdetail)
    rfl
  · obtain rfl := (String.append_left_inj _).1 hdetail
    rfl
  · obtain rfl := Token.Kind.description_injective ((String.append_left_inj _).1 hdetail)
    rfl
  · obtain rfl := Token.Kind.description_injective ((String.append_left_inj _).1 hdetail)
    rfl
  · obtain rfl := Token.Kind.description_injective ((String.append_left_inj _).1 hdetail)
    rfl
  · obtain rfl := Token.Kind.description_injective ((String.append_left_inj _).1 hdetail)
    rfl
  · rfl
  · rfl
  · obtain rfl := Decimal.ofNat_injective ((String.append_left_inj _).1 hdetail)
    rfl

/-- **An explanation tells the fault.** -/
theorem explanation_injective {fault other : Fault} (h : fault.explanation = other.explanation) :
    fault = other := by
  rw [explanation_eq, explanation_eq] at h
  have htexts := congrArg String.toList h
  rw [String.toList_append, String.toList_append, List.append_eq_append_iff] at htexts
  -- one of the two openings is the beginning of the other, or all of it
  have hform : fault.form = other.form := by
    rcases htexts with ⟨rest, hopening, -⟩ | ⟨rest, hopening, -⟩
    · exact Form.eq_of_opening hopening.symm
    · exact (Form.eq_of_opening hopening.symm).symm
  rw [hform, String.append_right_inj] at h
  exact eq_of_form_of_detail hform h

end Fault

/-! ## Messages -/

/-- A report tells the offset and the explanation. -/
lemma report_inj {offset place : Nat} {explanation other : String}
    (h : report offset explanation = report place other) :
    offset = place ∧ explanation = other := by
  unfold report at h
  simp only [String.append_assoc, String.append_right_inj] at h
  have htexts := congrArg String.toList h
  simp only [Decimal.ofNat, String.toList_append, String.toList_ofList] at htexts
  have hcolon : ∀ text : List Char, ∀ c ∈ (": ".toList ++ text).head?, ¬c.isDigit := by
    rintro text c ⟨⟩
    decide
  obtain ⟨hoffset, hrest⟩ := Decimal.digits_append_inj (hcolon _) (hcolon _) htexts
  exact ⟨hoffset, String.toList_inj.1 (List.append_cancel_left hrest)⟩

/-- **Messages tell errors apart.** No two errors have one message, whatever faults they are and
whatever they carry.  Each message begins with the offset of its error. -/
theorem EvaluationError.message_injective :
    Function.Injective EvaluationError.message
      ∧ ∀ error : EvaluationError, ∃ explanation,
        error.message = "Error at offset " ++ Decimal.ofNat error.offset ++ ": " ++ explanation := by
  constructor
  · rintro ⟨fault, offset⟩ ⟨fault', offset'⟩ h
    obtain ⟨rfl, hexplanation⟩ := report_inj h
    obtain rfl := Fault.explanation_injective hexplanation
    rfl
  · intro error
    exact ⟨error.value.explanation, rfl⟩

end Calculator
