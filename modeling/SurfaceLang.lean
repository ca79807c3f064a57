import SurfaceLang.Command
import SurfaceLang.Proofs.Grammar
import SurfaceLang.Proofs.Outcome
import SurfaceLang.Proofs.Fault
import SurfaceLang.Proofs.Reading
import SurfaceLang.Proofs.Program
import SurfaceLang.Proofs.Acceptance
import SurfaceLang.Proofs.Sentence
import SurfaceLang.Proofs.FirstFault
import SurfaceLang.Proofs.FloatBits
import SurfaceLang.Proofs.Lexing
import SurfaceLang.Proofs.Nearest
import SurfaceLang.Proofs.Numerals
import SurfaceLang.Proofs.Lexemes
import SurfaceLang.Proofs.Printed
import SurfaceLang.Proofs.RoundTrip
import SurfaceLang.Proofs.Height
import SurfaceLang.Proofs.Limit
import SurfaceLang.Proofs.Cut
import SurfaceLang.Proofs.Lowercase
import SurfaceLang.Proofs.Spacing
import SurfaceLang.Proofs.Replacement
import SurfaceLang.Proofs.Substitution
import SurfaceLang.Proofs.Juxtaposition
import SurfaceLang.Proofs.Literals
import SurfaceLang.Proofs.Pushback
import SurfaceLang.Proofs.Exact
import SurfaceLang.Proofs.Logging
import SurfaceLang.Proofs.WholeNumbers
import SurfaceLang.Proofs.Sampling
import SurfaceLang.Proofs.CommandLine
import SurfaceLang.Proofs.FloatText
import SurfaceLang.Proofs.AxisText
import SurfaceLang.Proofs.Outline
import SurfaceLang.Proofs.TokenStream
import SurfaceLang.Proofs.Rounding
import SurfaceLang.Proofs.Ranks
import SurfaceLang.Proofs.Shifting
import SurfaceLang.Proofs.Arithmetic
import SurfaceLang.Proofs.WholeParts
import SurfaceLang.Proofs.Words
import SurfaceLang.Proofs.SampleOrder
import SurfaceLang.Proofs.Moves
