/-!
# Byte lengths

Offsets count bytes of the UTF-8 encoding, while scanning goes by characters.  `byteLength` is
the bridge: the number of bytes that a run of characters takes.
-/

namespace Calculator

/-- The number of bytes that a run of characters takes in UTF-8. -/
def byteLength (text : List Char) : Nat :=
  text.foldr (fun c n => c.utf8Size + n) 0

@[simp]
theorem byteLength_nil : byteLength [] = 0 := rfl

@[simp]
theorem byteLength_cons (c : Char) (text : List Char) :
    byteLength (c :: text) = c.utf8Size + byteLength text := rfl

@[simp]
theorem byteLength_append (left right : List Char) :
    byteLength (left ++ right) = byteLength left + byteLength right := by
  induction left with
  | nil => simp
  | cons c left ih => simp [ih, Nat.add_assoc]

/-- A run of characters that is not empty takes at least one byte. -/
theorem byteLength_pos {text : List Char} (h : text ≠ []) : 0 < byteLength text := by
  cases text with
  | nil => contradiction
  | cons c text =>
      have := c.utf8Size_pos
      simp only [byteLength_cons]
      omega

/-- **The byte length of the characters of a string is the size of the string.** -/
theorem byteLength_toList (s : String) : byteLength s.toList = s.utf8ByteSize := by
  have key : ∀ text : List Char, byteLength text = (String.ofList text).utf8ByteSize := by
    intro text
    induction text with
    | nil => rfl
    | cons c text ih =>
        rw [byteLength_cons, ih, ← List.singleton_append, String.ofList_append,
          String.utf8ByteSize_append, ← String.singleton_eq_ofList, String.utf8ByteSize_singleton]
  rw [key, String.ofList_toList]

end Calculator
