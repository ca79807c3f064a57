import SurfaceLang.Numeral
import SurfaceLang.Token

namespace SurfaceLang

inductive Level where
  | debug
  | warn
  | error
  deriving DecidableEq, Repr

def Level.name : Level → String
  | .debug => "DEBUG"
  | .warn => "WARN"
  | .error => "ERROR"

structure LogRecord where
  level : Level
  text : String
  deriving DecidableEq, Repr

def LogRecord.line (r : LogRecord) : String :=
  r.level.name ++ " " ++ r.text

inductive NodeSort where
  | literal
  | variable
  | binary
  | function
  deriving DecidableEq, Repr

def NodeSort.name : NodeSort → String
  | .literal => "literal"
  | .variable => "variable"
  | .binary => "binary"
  | .function => "function"

inductive NodeError where
  | wrongToken (node : NodeSort) (token : Token)
  | noNumeral (text : String) (cause : NumeralError)
  | outOfRange (text : String)
  deriving DecidableEq, Repr

namespace NodeError

def details : NodeError → String
  | wrongToken node token => node.name ++ " node cannot be built from " ++ token.describe
  | noNumeral text cause => "cannot convert '" ++ text ++ "' to a number: " ++ cause.message
  | outOfRange text => "literal '" ++ text ++ "' is out of range"

def message (e : NodeError) : String :=
  "Internal error: invalid node creation: " ++ e.details ++ "."

def record : NodeError → LogRecord
  | wrongToken node token =>
    ⟨.error, "cannot build " ++ node.name ++ " node from " ++ token.listing ++
      "; the parser is inconsistent"⟩
  | e => ⟨.error, e.message⟩

end NodeError

/-- `unknown` and `unexpected` are found where an operand has to begin, `missing` where a single
kind of token can stand. -/
inductive ParseError where
  | node (cause : NodeError)
  | missing (wanted : TokenKind) (found : Token)
  | unknown (text : String)
  | unexpected (found : Token)
  | tooDeep (limit : Nat)
  deriving DecidableEq, Repr

namespace ParseError

def noOperand (found : Token) : ParseError :=
  if found.kind = .unknown then unknown found.text else unexpected found

def message : ParseError → String
  | node cause => cause.message
  | missing wanted found =>
    "Invalid syntax: expected " ++ wanted.spelling ++ " but found " ++ found.describe ++ "."
  | unknown text => "Unknown token: '" ++ text ++ "'."
  | unexpected found =>
    "Unexpected " ++ found.describe ++ ": expected a number, variable, function or '('."
  | tooDeep limit => "Expression is nested too deeply (limit is " ++ toString limit ++ ")."

def records : ParseError → List LogRecord
  | node cause => [cause.record]
  | _ => []

end ParseError

end SurfaceLang
