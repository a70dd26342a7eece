import Calculator.Command
import Calculator.Grammar
import Calculator.Log
import Calculator.Machine
import Calculator.Main
import Calculator.Proofs.ArithmeticErrors
import Calculator.Proofs.Calls
import Calculator.Proofs.Chains
import Calculator.Proofs.Composition
import Calculator.Proofs.Concatenation
import Calculator.Proofs.Contracts
import Calculator.Proofs.Descent
import Calculator.Proofs.Embedding
import Calculator.Proofs.Entries
import Calculator.Proofs.Exactness
import Calculator.Proofs.FailFast
import Calculator.Proofs.Lexemes
import Calculator.Proofs.Limit
import Calculator.Proofs.Listing
import Calculator.Proofs.Machine
import Calculator.Proofs.Messages
import Calculator.Proofs.Offences
import Calculator.Proofs.Operands
import Calculator.Proofs.Operations
import Calculator.Proofs.Outline
import Calculator.Proofs.Places
import Calculator.Proofs.Positions
import Calculator.Proofs.Printing
import Calculator.Proofs.Pulled
import Calculator.Proofs.Ranges
import Calculator.Proofs.Reading
import Calculator.Proofs.Refusals
import Calculator.Proofs.Relocation
import Calculator.Proofs.Replacement
import Calculator.Proofs.Seams
import Calculator.Proofs.Spelling
import Calculator.Proofs.Tiling
import Calculator.Proofs.TokenStream
import Calculator.Proofs.Unambiguity
import Calculator.Proofs.Values
import Calculator.Proofs.ViablePrefix
