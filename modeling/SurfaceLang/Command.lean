import SurfaceLang.Axis
import SurfaceLang.Expr.Printer
import SurfaceLang.Parser

namespace SurfaceLang.Command

structure Options where
  expression : String
  x : Float := 0.0
  y : Float := 0.0
  tokens : Bool := false
  tree : Bool := false
  grid : Option Axis := none
  maxDepth : Nat := defaultLimit
  deriving DecidableEq

structure Outcome where
  code : UInt32
  output : String
  errors : String
  deriving DecidableEq, Repr

/-- How arguments are read: as options, or else with an outcome of their own, such as a help text or
what is wrong with them. -/
abbrev Reader := List String → Except Outcome Options

/-- What a logger writes among the errors for the records of a run. -/
abbrev Logger := List LogRecord → String

def line (text : String) : String :=
  text ++ "\n"

def tokenLines (expression : String) : String × List LogRecord :=
  let (found, lexer) := (Lexer.ofInput expression).drain
  (String.join (found.map fun t => line t.listing), lexer.cursor.log)

def row (values : List Float) : String :=
  line ("\t".intercalate (values.map floatText))

def table (surface : Surface) (axis : Axis) : String :=
  line "x\ty\tz" ++
    String.join (axis.samples.flatMap fun x =>
      axis.samples.map fun y => row [x, y, surface.eval x y])

def Options.run (logger : Logger) (o : Options) : Outcome :=
  let (listed, seen) := if o.tokens then tokenLines o.expression else ("", [])
  let parsed := parseWithin o.maxDepth o.expression
  let logged := logger (seen ++ parsed.log)
  match parsed.result with
  | .error error => ⟨1, listed, logged ++ line error.message⟩
  | .ok surface =>
    let outlined := if o.tree then surface.outline else ""
    let values :=
      match o.grid with
      | some axis => table surface axis
      | none => row [surface.eval o.x o.y]
    ⟨0, listed ++ outlined ++ values, logged⟩

def run (reader : Reader) (logger : Logger) (arguments : List String) : Outcome :=
  match reader arguments with
  | .ok options => options.run logger
  | .error outcome => outcome

end SurfaceLang.Command
