import Calculator.Text.Unprintable

/-!
# Quoted text

How a message shows a character or a text that is not its own: between quotes, each character as
itself if that can be read, and otherwise by an escape.  The quote and the backslash are escaped
too, so that the end of the quotation is always plain.
-/

namespace Calculator.Quoted

/-- The short names of characters, each written after a backslash.  Of the two quotes only the one
that encloses the quotation has a name. -/
def shortName? (quote c : Char) : Option Char :=
  if c = '\x00' then some '0'
  else if c = '\x09' then some 't'
  else if c = '\x0a' then some 'n'
  else if c = '\x0d' then some 'r'
  else if c = quote then some quote
  else if c = '\x5c' then some '\x5c'
  else none

/-- The code point in hexadecimal, without leading zeros and in small letters. -/
def hexadecimal (c : Char) : List Char :=
  Nat.toDigits 16 c.toNat

/-- How a character stands between the quotes: by its short name if it has one, by its code point if
it would leave no mark of its own, and else as itself. -/
def body (quote c : Char) : List Char :=
  match shortName? quote c with
  | some name => ['\x5c', name]
  | none =>
    if isUnprintable c then '\x5c' :: 'u' :: '\x7b' :: (hexadecimal c ++ ['\x7d']) else [c]

/-- From the space to the tilde a character stands as itself, unless it is the quote or the
backslash. -/
theorem body_eq_self {quote c : Char} (hlow : 32 ≤ c.toNat) (hhigh : c.toNat ≤ 126)
    (hquote : c ≠ quote) (hbackslash : c ≠ '\x5c') : body quote c = [c] := by
  have hshort : shortName? quote c = none := by
    have hcontrol : ∀ d : Char, d.toNat < 32 → c ≠ d := by
      rintro d hd rfl
      omega
    rw [shortName?, if_neg (hcontrol _ (by decide)), if_neg (hcontrol _ (by decide)),
      if_neg (hcontrol _ (by decide)), if_neg (hcontrol _ (by decide)), if_neg hquote,
      if_neg hbackslash]
  rw [body, hshort]
  simp only [isUnprintable_eq_false hlow hhigh]
  rfl

/-- A character as a message shows it, between single quotes. -/
def character (c : Char) : String :=
  String.ofList ('\x27' :: (body '\x27' c ++ ['\x27']))

/-- A text as a message shows it, between double quotes. -/
def text (s : String) : String :=
  String.ofList ('\x22' :: (s.toList.flatMap (body '\x22') ++ ['\x22']))

end Calculator.Quoted
