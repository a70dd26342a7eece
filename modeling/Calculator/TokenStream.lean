import Calculator.Reader

/-!
# Token streams

The tokens of an input, one after the other, and how they end: at the end of the input or at the
first lexeme that is no token.  They are what a reader reads.  A stream is pulled one token at a
time; past its last token it gives its ending for ever.
-/

namespace Calculator

/-- How the tokens of an input end. -/
inductive Ending where
  /-- The input ends, having so many bytes. -/
  | endOfInput (offset : Nat)
  /-- A lexeme is no token. -/
  | failure (error : LexicalError)
deriving DecidableEq

/-- The tokens of an input and their ending. -/
structure TokenStream where
  tokens : List (Located Token)
  ending : Ending
deriving DecidableEq

namespace TokenStream

/-- Take the next token off a stream. -/
def pull (stream : TokenStream) : Except LexicalError (Located Token × TokenStream) :=
  match stream.tokens with
  | token :: tokens => .ok (token, ⟨tokens, stream.ending⟩)
  | [] =>
    match stream.ending with
    | .endOfInput offset => .ok (⟨.endOfInput, offset⟩, stream)
    | .failure error => .error error

end TokenStream

namespace Reader

/-- The tokens that a reader reads, after those already read (the last one first). -/
def streamAfter (seen : List (Located Token)) (reader : Reader) : TokenStream :=
  match h : reader.nextToken with
  | (.error error, _) => ⟨seen.reverse, .failure error⟩
  | (.ok token, after) =>
    if ht : token.value = .endOfInput then
      ⟨seen.reverse, .endOfInput token.offset⟩
    else
      have := length_rest_of_nextToken h ht
      after.streamAfter (token :: seen)
termination_by reader.scanner.rest.length

/-- The stream of the tokens that a reader reads. -/
def stream (reader : Reader) : TokenStream :=
  reader.streamAfter []

end Reader

/-- The stream of the tokens of an input. -/
def TokenStream.ofString (input : String) : TokenStream :=
  (Reader.ofString input).stream

end Calculator
