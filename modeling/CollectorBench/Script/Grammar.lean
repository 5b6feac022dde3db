import CollectorBench.Script.Words
/-! Reading commands.
A script is read one complete command at a time, and what it makes of a text hangs on nothing that
comes later. The readers of the parts of a command know only readers that are one level deeper. -/
namespace CollectorBench.Script
open Source

/-- A list in a construct has at least one command; one that is nested in a word may be empty. -/
inductive ListKind where
  | inner
  | nested
  deriving DecidableEq, Repr

inductive Part where
  | list (kind : ListKind)
  | andOr
  | pipeline
  | command
  deriving DecidableEq, Repr

abbrev Readers := Part → Reading Command

def keywords : List String :=
  ["!","case","do","done","elif","else","esac","fi","for","if","in","then","until",
    "while","\x7b","\x7d"]

def closingKeywords : List String :=
  ["do","done","elif","else","esac","fi","then","\x7d"]

def specialCommands : List String :=
  [".",":","break","continue","eval","exec","exit","export","local","readonly","return",
    "set","shift","times","trap","unset"]

def Token.endsList : Token → Bool
  | .ending => true
  | .closing => true
  | .armEnd => true
  | .keyword name => closingKeywords.contains name
  | _ => false

def Token.isKeyword (name : String) : Token → Bool
  | .keyword other => other = name
  | _ => false

def Token.asKeyword (token : Token) : Token :=
  match token with
  | .word content =>
    match plain? content with
    | some characters =>
      let name := String.ofList characters
      if keywords.contains name then .keyword name else token
    | none => token
  | _ => token

def skipBlanks : List Char → List Char
  | ' ' :: rest => skipBlanks rest
  | '\t' :: rest => skipBlanks rest
  | '\\' :: '\n' :: rest => skipBlanks rest
  | '#' :: rest => rest.dropWhile (· ≠ '\n')
  | rest => rest

def cutMark? : List Char → Option (Token × List Char)
  | '&' :: '&' :: rest => some (.andThen,rest)
  | '&' :: rest => some (.ampersand,rest)
  | '|' :: '|' :: rest => some (.orElse,rest)
  | '|' :: rest => some (.bar,rest)
  | ';' :: ';' :: rest => some (.armEnd,rest)
  | ';' :: rest => some (.semicolon,rest)
  | '(' :: rest => some (.opening,rest)
  | ')' :: rest => some (.closing,rest)
  | _ => none

def cutOperator? : List Char → Option (Token × List Char)
  | '>' :: '>' :: rest => some (.redirect 1 (.file .append),rest)
  | '>' :: '&' :: rest => some (.redirect 1 .duplicate,rest)
  | '>' :: '|' :: rest => some (.redirect 1 (.file .clobber),rest)
  | '>' :: rest => some (.redirect 1 (.file .write),rest)
  | '<' :: '<' :: '-' :: rest => some (.redirect 0 (.document true),rest)
  | '<' :: '<' :: rest => some (.redirect 0 (.document false),rest)
  | '<' :: '&' :: rest => some (.redirect 0 .duplicate,rest)
  | '<' :: '>' :: rest => some (.redirect 0 (.file .readWrite),rest)
  | '<' :: rest => some (.redirect 0 (.file .read),rest)
  | _ => none

def cutRedirect? (text : List Char) : Option (Token × List Char) :=
  match text with
  | c :: rest =>
    if c.isDigit then
      match cutOperator? rest with
      | some (.redirect _ operator,behind) =>
        some (.redirect (c.toNat - '0'.toNat) operator,behind)
      | _ => none
    else cutOperator? text
  | [] => none

def startsWord (text : List Char) : Bool :=
  match text with
  | [] => false
  | '\n' :: _ => false
  | _ => (cutMark? text <|> cutRedirect? text).isNone

def nestedCommands (readers : Readers) (ahead : Reading Token) : Until → Reading Command
  | .bracket => do
    let command ← readers (.list .nested)
    match ← ahead with
    | .closing => pure command
    | token => unexpected token (some .closing)
  | .ending => do
    let command ← readers (.list .nested)
    match ← ahead with
    | .ending => pure command
    | token => unexpected token

def takeAhead : Reading Token := do
  let source ← get
  set { source with ahead := none }
  pure (source.ahead.getD .ending)

def wordCommands (readers : Readers) : Until → Reading Command :=
  nestedCommands readers takeAhead

def readRaw (readers : Readers) : Reading Token := do
  let text := (← get).rest
  let behind := skipBlanks text
  pass (text.take (text.length - behind.length)) behind
  match behind with
  | [] => pure .ending
  | '\n' :: rest => do
    modify fun source =>
      { source with rest, line := source.line + 1 + source.delayed, delayed := 0 }
    pure .newline
  | _ =>
    match cutMark? behind <|> cutRedirect? behind with
    | some (token,rest) => do
      pass [] rest
      pure token
    | none => do
      .word <$> readPieces (wordCommands readers) (behind.length + 1) .bare []

def readBehindNewlines (readers : Readers) : Nat → Token → Reading Token
  | steps + 1, .newline => do readBehindNewlines readers steps (← readRaw readers)
  | _, token => pure token

def aliased? (before : Nat) (token : Token) : Reading Bool := do
  let source ← get
  match token with
  | .word word =>
    match (plain? word).bind fun name => (source.aliases.lookup name).map (name,·) with
    | some (name,value) =>
      if source.unfolded.any fun entry => entry.1 = name && entry.2 < before then pure false
      else do
        set { source with
          rest := value ++ source.rest
          unfolded := (name,source.rest.length) :: source.unfolded }
        pure true
    | none => pure false
  | _ => pure false

def readTokenFrom (readers : Readers) (newlines words : Bool) : Nat → Reading Token
  | 0 => refuse "Alias loop"
  | steps + 1 => do
    let source ← get
    set { source with ahead := none }
    let first ← match source.ahead with
      | some token => pure token
      | none => readRaw readers
    let before := source.rest.length
    let token ←
      if newlines then readBehindNewlines readers (source.rest.length + 1) first else pure first
    if words then
      match token.asKeyword with
      | .word word => do
        if ← aliased? before (.word word) then readTokenFrom readers newlines words steps
        else pure token
      | token => pure token
    else pure token

def readToken (readers : Readers) (newlines words : Bool) : Reading Token :=
  readTokenFrom readers newlines words 1000

def push (token : Token) : Reading Unit :=
  modify fun source => { source with ahead := some token }

def peekToken (readers : Readers) (newlines words : Bool) : Reading Token := do
  let token ← readToken readers newlines words
  push token
  pure token

def expectKeyword (readers : Readers) (name : String) : Reading Unit := do
  match ← readToken readers true true with
  | .keyword other =>
    if other = name then pure () else unexpected (.keyword other) (some (.keyword name))
  | token => unexpected token (some (.keyword name))

def readListFrom (readers : Readers) :
    Nat → (mayEnd : Bool) → Option Command → Reading Command
  | 0, _, _ => refuse "List too long"
  | steps + 1, mayEnd, before => do
    let first ← peekToken readers true true
    let isEnd := match first with
      | .ending => true
      | first => mayEnd && first.endsList
    if isEnd then pure (before.getD .nothing)
    else
      let command ← readers .andOr
      let joined (command : Command) : Command :=
        before.elim command fun before => .sequence before command
      match ← readToken readers false false with
      | .ampersand => readListFrom readers steps true (some (joined (.background command)))
      | .semicolon => readListFrom readers steps true (some (joined command))
      | .newline => do
        push .newline
        readListFrom readers steps true (some (joined command))
      | token => do
        push token
        pure (joined command)

def steps : Reading Nat := do
  pure ((← get).rest.length + 2)

def readList (readers : Readers) (kind : ListKind) : Reading Command := do
  readListFrom readers (← steps) (kind = .nested) none

def readAndOrFrom (readers : Readers) : Nat → Command → Reading Command
  | 0, _ => refuse "List too long"
  | steps + 1, first => do
    match ← readToken readers false false with
    | .andThen => do
      let _ ← peekToken readers true true
      readAndOrFrom readers steps (.andThen first (← readers .pipeline))
    | .orElse => do
      let _ ← peekToken readers true true
      readAndOrFrom readers steps (.orElse first (← readers .pipeline))
    | token => do
      push token
      pure first

def readAndOr (readers : Readers) : Reading Command := do
  let first ← readers .pipeline
  readAndOrFrom readers (← steps) first

def readStages (readers : Readers) : Nat → Reading (List Command)
  | 0 => refuse "Pipeline too long"
  | steps + 1 => do
    let first ← readers .command
    match ← readToken readers false false with
    | .bar => do
      let _ ← peekToken readers true true
      return first :: (← readStages readers steps)
    | token => do
      push token
      pure [first]

def readPipeline (readers : Readers) : Reading Command := do
  let first ← readToken readers true true
  let negated := first.isKeyword "!"
  if negated then do
    let _ ← peekToken readers false true
  else push first
  let command ← match ← readStages readers (← steps) with
    | [command] => pure command
    | stages => pure (.pipeline stages)
  pure (if negated then .negation command else command)

def readTarget (readers : Readers) (stream : Nat) : Operator → Reading Redirection
  | .document withoutTabs => do
    if startsWord (skipBlanks (← get).rest) then
      pure (.document stream (← readDocument (wordCommands readers) withoutTabs))
    else unexpected (← readToken readers false false)
  | .file mode => do
    match ← readToken readers false false with
    | .word name => pure (.file stream mode name)
    | token => unexpected token
  | .duplicate => do
    match ← readToken readers false false with
    | .word name => pure (.duplicate stream name)
    | token => unexpected token

def readRedirections (readers : Readers) : Nat → Reading (List Redirection)
  | 0 => refuse "Command too long"
  | steps + 1 => do
    match ← readToken readers false true with
    | .redirect stream operator => do
      let first ← readTarget readers stream operator
      return first :: (← readRedirections readers steps)
    | token => do
      push token
      pure []

def readBehind (readers : Readers) (line : Nat) (command : Command) : Reading Command := do
  match ← readRedirections readers (← steps), command with
  | [], _ => pure command
  | redirections, .subshell line body _ => pure (.subshell line body redirections)
  | redirections, _ => pure (.redirected line command redirections)

/-- A simple command as far as it has been read, each part last one first. -/
structure Draft where
  assignments : List (List Char × Word) := []
  words : List Word := []
  redirections : List Redirection := []

def readDefinition (readers : Readers) (name : Word) : Reading Command := do
  match ← readToken readers false false with
  | .closing =>
    match plain? name with
    | some characters =>
      if isName characters ∧ !specialCommands.contains (String.ofList characters) then do
        let _ ← peekToken readers true true
        let line := (← get).line
        pure (.definition line characters (← readers .command))
      else refuse "Bad function name"
    | none => refuse "Bad function name"
  | token => unexpected token (some .closing)

def readSimpleFrom (readers : Readers) (line : Nat) : Nat → Draft → Reading Command
  | 0, _ => refuse "Command too long"
  | steps + 1, draft => do
    let token ← readToken readers false false
    let ended : Reading Command := do
      push token
      pure (.simple line draft.assignments.reverse draft.words.reverse draft.redirections.reverse)
    match token with
    | .word word =>
      let draft ← match draft.words, assignment? word with
        | [], some assignment =>
          pure { draft with assignments := assignment :: draft.assignments }
        | [], none => do
          if ← aliased? (← get).rest.length.succ (.word word) then pure draft
          else pure { draft with words := [word] }
        | _, _ => pure { draft with words := word :: draft.words }
      readSimpleFrom readers line steps draft
    | .redirect stream operator => do
      let redirection ← readTarget readers stream operator
      readSimpleFrom readers line steps
        { draft with redirections := redirection :: draft.redirections }
    | .opening =>
      match draft with
      | { assignments := [], words := [name], redirections := [] } => readDefinition readers name
      | _ => ended
    | _ => ended

def readBranches (readers : Readers) : Nat → Reading Command
  | 0 => refuse "Command too long"
  | steps + 1 => do
    let condition ← readers (.list .inner)
    expectKeyword readers "then"
    let yes ← readers (.list .inner)
    match ← readToken readers true true with
    | .keyword "elif" => do
      pure (.branch condition yes (some (← readBranches readers steps)))
    | .keyword "else" => do
      let no ← readers (.list .inner)
      expectKeyword readers "fi"
      pure (.branch condition yes (some no))
    | .keyword "fi" => pure (.branch condition yes none)
    | token => unexpected token (some (.keyword "fi"))

def readLoop (readers : Readers) (goal : Bool) : Reading Command := do
  let condition ← readers (.list .inner)
  expectKeyword readers "do"
  let body ← readers (.list .inner)
  expectKeyword readers "done"
  pure (.loop goal condition body)

def readItems (readers : Readers) : Nat → Reading (List Word)
  | 0 => refuse "Command too long"
  | steps + 1 => do
    match ← readToken readers false false with
    | .word word => return word :: (← readItems readers steps)
    | .newline => pure []
    | .semicolon => pure []
    | token => unexpected token

def readEach (readers : Readers) (line : Nat) : Reading Command := do
  let name? := fun
    | Token.word word => (plain? word).filter isName
    | _ => none
  match name? (← readToken readers false false) with
  | none => refuse "Bad for loop variable"
  | some name => do
    let items ← match ← readToken readers true true with
      | .keyword "in" => do readItems readers (← steps)
      | token => do
        match token with
        | .semicolon => pure ()
        | token => push token
        pure [[.parameter ['@'] .value true]]
    expectKeyword readers "do"
    let body ← readers (.list .inner)
    expectKeyword readers "done"
    pure (.each line name items body)

/-- A word of a pattern; a keyword is one too. What is no word counts as an empty one. -/
def Token.asPattern : Token → Word
  | .word content => content
  | .keyword name => [.text name.toList false]
  | _ => []

def readPatterns (readers : Readers) : Nat → Token → Reading (List Word)
  | 0, _ => refuse "Command too long"
  | steps + 1, token => do
    let pattern := token.asPattern
    match ← readToken readers false false with
    | .bar => return pattern :: (← readPatterns readers steps (← readToken readers false false))
    | .closing => pure [pattern]
    | token => unexpected token (some .closing)

def readArms (readers : Readers) : Nat → Reading (List Arm)
  | 0 => refuse "Command too long"
  | steps + 1 => do
    match ← readToken readers true true with
    | .keyword "esac" => pure []
    | token => do
      let first ← match token with
        | .opening => readToken readers false false
        | token => pure token
      let patterns ← readPatterns readers steps first
      let body ← match ← readers (.list .nested) with
        | .nothing => pure none
        | body => pure (some body)
      let arm := Arm.arm patterns body
      match ← readToken readers true true with
      | .keyword "esac" => pure [arm]
      | .armEnd => return arm :: (← readArms readers steps)
      | token => unexpected token (some .armEnd)

def readChoice (readers : Readers) (line : Nat) : Reading Command := do
  match ← readToken readers false false with
  | .word subject => do
    match ← readToken readers true true with
    | .keyword "in" => do
      pure (.choice line subject (← readArms readers (← steps)))
    | token => unexpected token (some (.keyword "in"))
  | token => unexpected token (some (.word []))

def readCommand (readers : Readers) : Reading Command := do
  let line := (← get).line
  let first ← readToken readers false true
  match first with
  | .keyword "if" => do readBehind readers line (← readBranches readers (← steps))
  | .keyword "while" => do readBehind readers line (← readLoop readers true)
  | .keyword "until" => do readBehind readers line (← readLoop readers false)
  | .keyword "for" => do readBehind readers line (← readEach readers line)
  | .keyword "case" => do readBehind readers line (← readChoice readers line)
  | .keyword "\x7b" => do
    let body ← readers (.list .inner)
    expectKeyword readers "\x7d"
    readBehind readers line body
  | .opening => do
    let body ← readers (.list .inner)
    match ← readToken readers true true with
    | .closing => readBehind readers line (.subshell line body [])
    | token => unexpected token (some .closing)
  | .word _ => do
    push first
    readSimpleFrom readers line (← steps) {}
  | .redirect _ _ => do
    push first
    readSimpleFrom readers line (← steps) {}
  | token => unexpected token

def readPart (readers : Readers) : Part → Reading Command
  | .list kind => readList readers kind
  | .andOr => readAndOr readers
  | .pipeline => readPipeline readers
  | .command => readCommand readers

def readersOf : Nat → Readers
  | 0, _ => refuse "Too many levels"
  | levels + 1, part => readPart (readersOf levels) part

def readLineFrom (readers : Readers) : Nat → Option Command → Reading (Option Command)
  | 0, _ => refuse "List too long"
  | steps + 1, before => do
    match ← readToken readers false false with
    | .newline => pure before
    | .ending => do
      push .ending
      pure before
    | token => do
      push token
      let _ ← peekToken readers true true
      let command ← readers .andOr
      let joined (command : Command) : Option Command :=
        some (before.elim command fun before => .sequence before command)
      match ← readToken readers false false with
      | .ampersand => readLineFrom readers steps (joined (.background command))
      | .semicolon => readLineFrom readers steps (joined command)
      | .newline => do
        push .newline
        readLineFrom readers steps (joined command)
      | .ending => do
        push .ending
        readLineFrom readers steps (joined command)
      | token => unexpected token

namespace Source

def isEmpty (source : Source) : Bool :=
  source.rest = [] && match source.ahead with
    | none => true
    | some .ending => true
    | some _ => false

/-- Reads the commands in the next line, and those in the lines behind that belong to them. No part
of a command is deeper than its text is long. -/
def readLine (source : Source) : Except SyntaxFault (Option Command × Source) :=
  let depth := source.rest.length
  (readLineFrom (readersOf (4 * depth + 8)) (depth + 2) none).run source

end Source
end CollectorBench.Script
