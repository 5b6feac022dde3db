import CollectorBench.Script.Syntax
/-! A script that is being read.
What has been read is taken away from the text that is left. A here-document is taken out of the
text as soon as it is announced; its lines count when the line that announces it ends. -/
namespace CollectorBench.Script

structure SyntaxFault where
  line : Nat
  text : String
  deriving DecidableEq, Repr

inductive Operator where
  | file (mode : FileMode)
  | duplicate
  | document (withoutTabs : Bool)
  deriving DecidableEq, Repr

inductive Token where
  | ending
  | newline
  | semicolon
  | ampersand
  | bar
  | andThen
  | orElse
  | opening
  | closing
  | armEnd
  | word (word : Word)
  | keyword (name : String)
  | redirect (stream : Nat) (operator : Operator)

def Token.text : Token → String
  | .ending => "end of file"
  | .newline => "newline"
  | .semicolon => "\";\""
  | .ampersand => "\"&\""
  | .bar => "\"|\""
  | .andThen => "\"&&\""
  | .orElse => "\"||\""
  | .opening => "\"(\""
  | .closing => "\")\""
  | .armEnd => "\";;\""
  | .word _ => "word"
  | .keyword name => "\"" ++ name ++ "\""
  | .redirect _ _ => "redirection"

/-- The text that is left, the number of the line at hand, the number of lines taken out behind it,
and a token that has been read ahead. An alias that has taken the place of a word is not used again
until the text behind that word is reached. -/
structure Source where
  rest : List Char
  line : Nat := 1
  delayed : Nat := 0
  ahead : Option Token := none
  aliases : List (List Char × List Char) := []
  unfolded : List (List Char × Nat) := []

abbrev Reading := StateT Source (Except SyntaxFault)

namespace Source

def refuse {α : Type} (text : String) : Reading α := do
  throw { line := (← get).line, text := "Syntax error: " ++ text }

def unexpected {α : Type} (token : Token) (right : Option Token := none) : Reading α :=
  match right with
  | some right => refuse (token.text ++ " unexpected (expecting " ++ right.text ++ ")")
  | none => refuse (token.text ++ " unexpected")

def countLines (text : List Char) : Nat :=
  text.count '\n'

def pass (text rest : List Char) : Reading Unit :=
  modify fun source => { source with rest, line := source.line + countLines text }

end Source
end CollectorBench.Script
