/-! The commands of a script.
A word is made of pieces: text as it stands, and places where a value is put in when the word is
needed. A value may be the output of commands, so words and commands are defined together. -/
namespace CollectorBench.Script

/-- What happens where a parameter has no value, or, for `replace`, where it has one. -/
inductive Fallback where
  | use
  | assign
  | complain
  | replace
  deriving DecidableEq, Repr

inductive Side where
  | front
  | back
  deriving DecidableEq, Repr

inductive FileMode where
  | read
  | write
  | append
  | clobber
  | readWrite
  deriving DecidableEq, Repr

mutual

/-- A piece of a word. What is quoted is neither split nor matched against file names. -/
inductive Piece where
  | text (characters : List Char) (quoted : Bool)
  | parameter (name : List Char) (use : Use) (quoted : Bool)
  | output (command : Command) (quoted : Bool)
  | calculation (pieces : List Piece) (quoted : Bool)

inductive Use where
  | value
  | length
  | orElse (fallback : Fallback) (emptyToo : Bool) (word : List Piece)
  | trim (side : Side) (longest : Bool) (pattern : List Piece)
  | invalid

inductive Redirection where
  | file (stream : Nat) (mode : FileMode) (name : List Piece)
  | duplicate (stream : Nat) (name : List Piece)
  | document (stream : Nat) (body : List Piece)

inductive Arm where
  | arm (patterns : List (List Piece)) (body : Option Command)

inductive Command where
  | nothing
  | simple (line : Nat) (assignments : List (List Char × List Piece)) (words : List (List Piece))
      (redirections : List Redirection)
  | pipeline (stages : List Command)
  | negation (command : Command)
  | sequence (first second : Command)
  | andThen (first second : Command)
  | orElse (first second : Command)
  | background (command : Command)
  | subshell (line : Nat) (body : Command) (redirections : List Redirection)
  | redirected (line : Nat) (body : Command) (redirections : List Redirection)
  | branch (condition yes : Command) (no : Option Command)
  | loop (goal : Bool) (condition body : Command)
  | each (line : Nat) (name : List Char) (items : List (List Piece)) (body : Command)
  | choice (line : Nat) (subject : List Piece) (arms : List Arm)
  | definition (line : Nat) (name : List Char) (body : Command)

end

abbrev Word := List Piece

instance : Inhabited Command := ⟨.nothing⟩

def plain? : Word → Option (List Char)
  | [] => some []
  | .text characters false :: pieces => (plain? pieces).map (characters ++ ·)
  | _ => none

def isNameStart (c : Char) : Bool :=
  c.isAlpha || c = '_'

def isNameChar (c : Char) : Bool :=
  c.isAlphanum || c = '_'

def isName : List Char → Bool
  | [] => false
  | c :: rest => isNameStart c && rest.all isNameChar

def assignment? : Word → Option (List Char × Word)
  | .text characters false :: pieces =>
    let name := characters.takeWhile isNameChar
    match characters.drop name.length with
    | '=' :: value =>
      if isName name then some (name,.text value false :: pieces) else none
    | _ => none
  | _ => none

end CollectorBench.Script
