import Mathlib.Tactic.Common
import Calculator.Command.Invocation
import Calculator.Proofs.Places
import Calculator.Proofs.Relocation

/-!
# Listing the tokens

The command lists the tokens of its expression first if it is asked to, and what it says of the
expression otherwise stays the same.

* **Lines**, `Command.listing_eq`: each token is listed in a line, with its offset to the right in
  four columns.
* **The expression**, `Command.isLine_iff`: it is the text of the command less one line ending.
* **The answers**, `Command.Invocation.AppliesTo.response_eq`: nothing but the expression, the depth
  and whether the tokens are asked for makes a difference.

`Command.Invocation.response_listing` compares the answers with and without the tokens.
-/

namespace Calculator

/-! ## Lines -/

/-- A token as it is written in the listing. -/
def Token.written : Token → String
  | .number n => toString n
  | .operator .add => "+"
  | .operator .sub => "-"
  | .operator .mul => "*"
  | .operator .div => "/"
  | .leftParen => "("
  | .rightParen => ")"
  | .endOfInput => "end of input"

/-- That is its text. -/
lemma Token.text_eq_written (token : Token) : token.text = token.written := by
  cases token with
  | number n => cases n <;> rfl
  | operator op => cases op <;> rfl
  | _ => rfl

/-- What is aligned to the right has spaces before it, as many as are left of the width. -/
lemma Decimal.rightAligned_eq (width n : Nat) :
    rightAligned width n = spaces (width - (toString n).length) ++ toString n := by
  have hdigits : toString n = String.ofList (digits n) := rfl
  rw [hdigits, String.length_ofList, spaces, ← String.ofList_append]
  rfl

namespace Command

/-- The line of a token: its offset, to the right in four columns, two spaces, and the token. -/
def lineOf (token : Located Token) : String :=
  spaces (4 - (toString token.offset).length) ++ toString token.offset ++ "  "
    ++ token.value.written ++ "\n"

/-- **The listing has the line of each token**, in order. -/
theorem listing_eq (tokens : List (Located Token)) :
    listing tokens = String.join (tokens.map lineOf) := by
  have hline : tokenLine = lineOf := by
    funext token
    rw [tokenLine, lineOf, Decimal.rightAligned_eq, Token.text_eq_written]
  rw [listing, hline]

/-! ## The expression -/

/-- The text is a line, with its ending if there is one.  A carriage return belongs to the ending
only if a line feed follows. -/
def IsLine (text line : String) : Prop :=
  text = line ++ "\r\n"
    ∨ (text = line ++ "\n" ∧ line.toList.getLast? ≠ some '\r')
    ∨ (text = line ∧ line.toList.getLast? ≠ some '\n')

/-- Each text is the line that is left without its ending. -/
lemma isLine_stripLineEnding (text : String) : IsLine text (stripLineEnding text) := by
  rw [stripLineEnding]
  split
  · rename_i reversed h
    refine .inl ?_
    rw [← String.toList_inj, ← List.reverse_inj, h]
    simp
  · rename_i reversed hcrlf h
    refine .inr (.inl ⟨?_, ?_⟩)
    · rw [← String.toList_inj, ← List.reverse_inj, h]
      simp
    · rw [String.toList_ofList, List.getLast?_reverse]
      intro hlast
      obtain ⟨rest, rfl⟩ := List.head?_eq_some_iff.1 hlast
      exact hcrlf rest rfl
  · rename_i hcrlf hlf
    refine .inr (.inr ⟨rfl, ?_⟩)
    rw [← List.head?_reverse]
    intro hlast
    obtain ⟨rest, hrest⟩ := List.head?_eq_some_iff.1 hlast
    exact hlf rest hrest

/-- A carriage return and a line feed are taken away together. -/
lemma stripLineEnding_crlf (line : String) : stripLineEnding (line ++ "\r\n") = line := by
  simp [stripLineEnding]

/-- A line feed is taken away alone if no carriage return stands before it. -/
lemma stripLineEnding_lf {line : String} (h : line.toList.getLast? ≠ some '\r') :
    stripLineEnding (line ++ "\n") = line := by
  rw [← List.head?_reverse] at h
  have hreverse : (line ++ "\n").toList.reverse = '\n' :: line.toList.reverse := by simp
  rw [stripLineEnding, hreverse]
  split
  · rename_i reversed hcr
    rw [(List.cons.inj hcr).2] at h
    exact absurd rfl h
  · rename_i reversed _ hlf
    rw [← (List.cons.inj hlf).2, List.reverse_reverse, String.ofList_toList]
  · rename_i _ hlf
    exact absurd rfl (hlf _)

/-- Without a line feed there is nothing to take away. -/
lemma stripLineEnding_self {line : String} (h : line.toList.getLast? ≠ some '\n') :
    stripLineEnding line = line := by
  rw [← List.head?_reverse] at h
  rw [stripLineEnding]
  split
  · rename_i reversed hcrlf
    rw [hcrlf] at h
    exact absurd rfl h
  · rename_i reversed _ hlf
    rw [hlf] at h
    exact absurd rfl h
  · rfl

/-- **The expression is the line without its ending.** -/
theorem isLine_iff {text line : String} : IsLine text line ↔ stripLineEnding text = line := by
  constructor
  · rintro (rfl | ⟨rfl, hcr⟩ | ⟨rfl, hlf⟩)
    · exact stripLineEnding_crlf line
    · exact stripLineEnding_lf hcr
    · exact stripLineEnding_self hlf
  · rintro rfl
    exact isLine_stripLineEnding text

/-- Of two line endings only the last one is taken away. -/
example : stripLineEnding "1 + 2\n\r\n" = "1 + 2\n" := by decide

/-! ## The answers -/

namespace Invocation

/-- The text to which an invocation applies: its operand, or what the file holds that it names. -/
def AppliesTo (invocation : Invocation) (contents? : Option ByteArray) (text : String) : Prop :=
  (invocation.file = false ∧ invocation.operand = text)
    ∨ (invocation.file = true ∧ contents? = some text.toUTF8)

namespace AppliesTo

variable {invocation : Invocation} {contents? : Option ByteArray} {text line : String}

/-- That is the text which the command takes. -/
lemma source?_eq (h : invocation.AppliesTo contents? text) :
    invocation.source? contents? = some text := by
  rcases h with ⟨hfile, rfl⟩ | ⟨hfile, rfl⟩
  · rw [source?, hfile]
    rfl
  · rw [source?, if_pos hfile, Option.bind_some, String.fromUTF8?, String.toUTF8_eq_toByteArray,
      dif_pos text.isValidUTF8]
    rfl

/-- **The answer depends on nothing but the line, the depth, and whether the tokens are asked
for.** -/
lemma response_eq (h : invocation.AppliesTo contents? text) (hline : IsLine text line)
    (tokens : Bool) :
    { invocation with tokens }.response contents? = calculate invocation.maxDepth tokens line := by
  have hsource : { invocation with tokens }.source? contents? = some text := h.source?_eq
  rw [response, hsource]
  dsimp only
  rw [isLine_iff.1 hline]

end AppliesTo

end Invocation

/-- What the tokens add to the answer of the command, and what they leave as it is. -/
structure Response.Lists (maxDepth : Nat) (line : String) (plain listed : Response) : Prop where
  /-- The verdict is the same, and is that of the evaluation. -/
  exitCode_eq : listed.exitCode = plain.exitCode
  exitCode_eq_zero_iff : plain.exitCode = 0 ↔ ∃ value, evaluateWithin maxDepth line = .ok value
  /-- The lines of the tokens come first, if there are any to list. -/
  of_ok : ∀ tokens, tokenize line = .ok tokens →
    listed.stdout = String.join (tokens.map lineOf) ++ plain.stdout
      ∧ listed.stderr = plain.stderr
  /-- Otherwise the error of the tokens is reported, if not something else from further to the
  front. -/
  of_error : ∀ error, tokenize line = .error error →
    plain.stdout = "" ∧ listed.stdout = "" ∧ listed.stderr = error.message ++ "\n"
      ∧ (plain.stderr = listed.stderr
        ∨ ∃ failure, evaluateWithin maxDepth line = .error failure
          ∧ ((∃ fault, failure.value = .syntactic fault) ∨ ∃ fault, failure.value = .runtime fault)
          ∧ failure.offset < error.offset ∧ plain.stderr = failure.message ++ "\n")

/-- If there are tokens to list, that is all of the answer. -/
lemma Response.Lists.eq_of_ok {maxDepth : Nat} {line : String} {plain listed : Response}
    (h : plain.Lists maxDepth line listed) {tokens : List (Located Token)}
    (htokens : tokenize line = .ok tokens) :
    listed = { plain with stdout := String.join (tokens.map lineOf) ++ plain.stdout } := by
  obtain ⟨hstdout, hstderr⟩ := h.of_ok tokens htokens
  rw [← hstdout, ← hstderr, ← h.exitCode_eq]

lemma Response.Lists.eq_of_error {maxDepth : Nat} {line : String} {plain listed : Response}
    (h : plain.Lists maxDepth line listed) {error : LexicalError}
    (herror : tokenize line = .error error) :
    listed = ⟨plain.exitCode, "", error.message ++ "\n"⟩ := by
  obtain ⟨-, hstdout, hstderr, -⟩ := h.of_error error herror
  rw [← hstdout, ← hstderr, ← h.exitCode_eq]

/-- The value comes after all that has been written. -/
lemma valueResponse_eq (maxDepth : Nat) (line written : String) :
    valueResponse maxDepth line written
      = { valueResponse maxDepth line "" with
          stdout := written ++ (valueResponse maxDepth line "").stdout } := by
  simp only [valueResponse]
  cases evaluateWithin maxDepth line with
  | ok value => simp [String.append_assoc]
  | error error => simp [failure]

/-- The answer tells by its code whether there is a value. -/
lemma exitCode_valueResponse (maxDepth : Nat) (line written : String) :
    (valueResponse maxDepth line written).exitCode = 0
      ↔ ∃ value, evaluateWithin maxDepth line = .ok value := by
  rw [valueResponse]
  cases evaluateWithin maxDepth line with
  | ok value => simp
  | error error => simp [failure]

/-- **With and without the tokens the answer to a line is the same otherwise.** -/
theorem lists_calculate (maxDepth : Nat) (line : String) :
    (calculate maxDepth false line).Lists maxDepth line (calculate maxDepth true line) := by
  have hplain : calculate maxDepth false line = valueResponse maxDepth line "" := rfl
  cases htokenize : tokenize line with
  | ok tokens =>
      have hlisted : calculate maxDepth true line
          = valueResponse maxDepth line (String.join (tokens.map lineOf)) := by
        rw [calculate, if_pos rfl, htokenize, ← listing_eq]
      rw [hplain, hlisted, valueResponse_eq maxDepth line (String.join (tokens.map lineOf))]
      refine ⟨rfl, exitCode_valueResponse maxDepth line "", ?_, ?_⟩
      · intro _ h
        cases htokenize.symm.trans h
        exact ⟨rfl, rfl⟩
      · intro _ h
        cases htokenize.symm.trans h
  | error error =>
      have hlisted : calculate maxDepth true line = Command.failure "" error.message := by
        rw [calculate, if_pos rfl, htokenize]
      obtain ⟨failure, hvalue, hfailure⟩ :
          ∃ failure, evaluateWithin maxDepth line = .error failure
            ∧ (failure = error.map .lexical
              ∨ ((∃ fault, failure.value = .syntactic fault)
                  ∨ ∃ fault, failure.value = .runtime fault)
                ∧ failure.offset < error.offset) := by
        rcases evaluateWithin_of_tokenize_eq_error maxDepth htokenize with
          hvalue | ⟨failure, hvalue, hfailure⟩
        · exact ⟨_, hvalue, .inl rfl⟩
        · exact ⟨failure, hvalue, .inr hfailure⟩
      have hvalueResponse :
          valueResponse maxDepth line "" = Command.failure "" failure.message := by
        rw [valueResponse, hvalue]
      refine ⟨?_, exitCode_valueResponse maxDepth line "", ?_, ?_⟩
      · rw [hlisted, hplain, hvalueResponse]
        rfl
      · intro _ h
        cases htokenize.symm.trans h
      · intro _ h
        cases htokenize.symm.trans h
        rw [hlisted, hplain, hvalueResponse]
        refine ⟨rfl, rfl, rfl, ?_⟩
        rcases hfailure with rfl | ⟨hfault, hbefore⟩
        · exact .inl rfl
        · exact .inr ⟨failure, hvalue, hfault, hbefore, rfl⟩

/-- **Listing the tokens leaves the verdict as it is.**  The answers to an invocation without and
with the tokens agree as `Response.Lists` says.  Whatever the line comes from, nothing but the line,
the depth and whether the tokens are asked for makes a difference; so a file can hold the line with
or without an ending. -/
theorem Invocation.response_listing {invocation : Invocation} {contents? : Option ByteArray}
    {text line : String} (htext : invocation.AppliesTo contents? text) (hline : IsLine text line) :
    ({ invocation with tokens := false }.response contents?).Lists invocation.maxDepth line
        ({ invocation with tokens := true }.response contents?)
      ∧ (∀ (other : Invocation) (otherContents? : Option ByteArray) (otherText : String),
          other.AppliesTo otherContents? otherText → IsLine otherText line →
          other.maxDepth = invocation.maxDepth → other.tokens = invocation.tokens →
            other.response otherContents? = invocation.response contents?)
      ∧ (line.toList.getLast? ≠ some '\n' → line.toList.getLast? ≠ some '\r' →
          ∀ ending ∈ ["", "\n", "\r\n"], ∀ other : Invocation, other.file = true →
          other.maxDepth = invocation.maxDepth → other.tokens = invocation.tokens →
            other.response (some (line ++ ending).toUTF8) = invocation.response contents?) := by
  have hsame : ∀ (other : Invocation) (otherContents? : Option ByteArray) (otherText : String),
      other.AppliesTo otherContents? otherText → IsLine otherText line →
      other.maxDepth = invocation.maxDepth → other.tokens = invocation.tokens →
        other.response otherContents? = invocation.response contents? := by
    intro other otherContents? otherText hother hotherLine hdepth htokens
    calc other.response otherContents?
        = calculate other.maxDepth other.tokens line := hother.response_eq hotherLine other.tokens
      _ = calculate invocation.maxDepth invocation.tokens line := by rw [hdepth, htokens]
      _ = invocation.response contents? := (htext.response_eq hline invocation.tokens).symm
  refine ⟨?_, hsame, ?_⟩
  · rw [htext.response_eq hline, htext.response_eq hline]
    exact lists_calculate invocation.maxDepth line
  · intro hlf hcr ending hending other hfile
    have hfileLine : IsLine (line ++ ending) line := by
      simp only [List.mem_cons, List.not_mem_nil, or_false] at hending
      rcases hending with rfl | rfl | rfl
      · exact .inr (.inr ⟨String.append_empty, hlf⟩)
      · exact .inr (.inl ⟨rfl, hcr⟩)
      · exact .inl rfl
    exact hsame other _ _ (.inr ⟨hfile, rfl⟩) hfileLine

/-- The offsets of a sum are listed to the right, however far apart its tokens stand.  In a file
with `)@` and a line ending the evaluation finds fault with the parenthesis, and the listing with
the character after it. -/
theorem Invocation.response_listing_sum :
    response ⟨"1         +" ++ spaces 89 ++ "2", false, true, 256⟩ none
        = ⟨0, "   0  1\n  10  +\n 100  2\n3\n", ""⟩
      ∧ response ⟨"x", true, false, 256⟩ (some ")@\r\n".toUTF8)
        = ⟨1, "", "Error at offset 0: Expected number or '(', found ')'.\n"⟩
      ∧ response ⟨"x", true, true, 256⟩ (some ")@\r\n".toUTF8)
        = ⟨1, "", "Error at offset 1: Unrecognized character '@'.\n"⟩ := by
  constructor
  · generalize hsum : "1         +" ++ spaces 89 ++ "2" = sum
    have htext : AppliesTo ⟨sum, false, true, 256⟩ none sum := .inl ⟨rfl, rfl⟩
    have hline : IsLine sum sum := .inr (.inr ⟨rfl, by rw [← hsum]; decide +kernel⟩)
    have hstream : TokenStream.ofString sum
        = ⟨[⟨.number 1, 0⟩, ⟨.operator .add, 10⟩, ⟨.number 2, 100⟩], .endOfInput 101⟩ := by
      rw [← hsum]
      decide +kernel
    have hvalue : evaluateWithin 256 sum = .ok 3 := by
      rw [evaluateWithin_eq_outcome, hstream]
      rfl
    have hplain : response ⟨sum, false, false, 256⟩ none = ⟨0, "3\n", ""⟩ := by
      rw [htext.response_eq hline false, calculate, if_neg nofun, valueResponse, hvalue]
      decide +kernel
    have hlists := (response_listing htext hline).1
    rw [hlists.eq_of_ok (tokenize_eq_ok_iff.2 ⟨_, hstream⟩), hplain]
    decide +kernel
  · have htext : AppliesTo ⟨"x", true, true, 256⟩ (some ")@\r\n".toUTF8) ")@\r\n" :=
      .inr ⟨rfl, rfl⟩
    have hline : IsLine ")@\r\n" ")@" := .inl rfl
    have hstream : TokenStream.ofString ")@"
        = ⟨[⟨.rightParen, 0⟩], .failure ⟨.unrecognizedCharacter '@', 1⟩⟩ := by decide +kernel
    have hvalue : evaluateWithin 256 ")@"
        = .error ⟨.syntactic (.expectedOperand .rightParen), 0⟩ := by
      rw [evaluateWithin_eq_outcome, hstream]
      rfl
    have hplain : response ⟨"x", true, false, 256⟩ (some ")@\r\n".toUTF8)
        = ⟨1, "", "Error at offset 0: Expected number or '(', found ')'.\n"⟩ := by
      rw [htext.response_eq hline false, calculate, if_neg nofun, valueResponse, hvalue]
      decide +kernel
    have htokenize : tokenize ")@" = .error ⟨.unrecognizedCharacter '@', 1⟩ := by
      rw [tokenize_eq, hstream]
      rfl
    have hlists := (response_listing htext hline).1
    refine ⟨hplain, ?_⟩
    rw [hlists.eq_of_error htokenize, hplain]
    decide +kernel

end Command

end Calculator
