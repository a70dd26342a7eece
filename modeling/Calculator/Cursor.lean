import Calculator.Lexeme

/-!
# Cursors

A cursor is a place in the input: the bytes already passed and the characters still ahead.  Each
step skips the spaces ahead and cuts one lexeme off what follows, as long a one as can be cut.

A cursor passes a lexeme whether it is a token or not; `Cursor.lexemes` cuts an input up to its end.
What to do about a lexeme that is no token is left to whoever moves the cursor.
-/

namespace Calculator

/-- A place in the input. -/
structure Cursor where
  /-- The number of bytes already passed. -/
  position : Nat
  /-- The characters still ahead. -/
  rest : List Char
deriving DecidableEq

/-- Spaces stand between tokens and mean nothing; no other character does. -/
def isSpace (c : Char) : Bool :=
  c = ' '

namespace Cursor

/-- The place before the first character of an input. -/
def start (input : String) : Cursor :=
  ⟨0, input.toList⟩

/-- Pass the spaces ahead. -/
def skipSpaces (cursor : Cursor) : Cursor :=
  ⟨cursor.position + byteLength (cursor.rest.takeWhile isSpace), cursor.rest.dropWhile isSpace⟩

/-- Pass the spaces ahead and cut off the lexeme after them: all digits that follow each other, or
else a single character.  At the end of the input there is none. -/
def scan (cursor : Cursor) : Option (Lexeme × Cursor) :=
  match cursor.skipSpaces.rest with
  | [] => none
  | first :: rest =>
    let more := if first.isDigit then rest.takeWhile Char.isDigit else []
    let lexeme : Lexeme := ⟨cursor.skipSpaces.position, first, more⟩
    some (lexeme, ⟨lexeme.stop, if first.isDigit then rest.dropWhile Char.isDigit else rest⟩)

/-- Cutting off a lexeme leaves less ahead. -/
theorem length_rest_of_scan {cursor after : Cursor} {lexeme : Lexeme}
    (h : cursor.scan = some (lexeme, after)) : after.rest.length < cursor.rest.length := by
  unfold scan at h
  split at h
  · cases h
  · rename_i first rest hrest
    cases h
    have hskip : (first :: rest).length ≤ cursor.rest.length :=
      hrest ▸ (List.dropWhile_sublist isSpace).length_le
    have hcut : (rest.dropWhile Char.isDigit).length ≤ rest.length :=
      (List.dropWhile_sublist Char.isDigit).length_le
    simp only [List.length_cons] at hskip
    show (if first.isDigit then rest.dropWhile Char.isDigit else rest).length < _
    split <;> omega

/-- All lexemes ahead. -/
def lexemes (cursor : Cursor) : List Lexeme :=
  match h : cursor.scan with
  | none => []
  | some (lexeme, after) =>
    have := length_rest_of_scan h
    lexeme :: after.lexemes
termination_by cursor.rest.length

end Cursor

end Calculator
