import CollectorBench.Number.Integer
/-! Regular expressions.
Of the matches that begin first the longest one counts. Matching tries the longest way first and
steps back where that leads nowhere. A match knows what each group has taken. -/
namespace CollectorBench.Programs

/-- A place between two characters: at an end of the text or of a line in it, or where it does or
does not come from one side of a word to the other. -/
inductive Edge where
  | textStart
  | textEnd
  | lineStart
  | lineEnd
  | wordStart
  | wordEnd
  | word
  | noWord
  deriving DecidableEq, Repr

inductive Regex where
  | empty
  | one (negated : Bool) (members : List (Char × Char))
  | edge (place : Edge)
  | sequence (first second : Regex)
  | either (first second : Regex)
  | group (number : Nat) (inner : Regex)
  | back (number : Nat)
  | many (inner : Regex) (least : Nat) (most : Option Nat)
  deriving Repr

namespace Regex

/-- A text that is being matched: what has been passed, last character first, what is left, and the
groups that have been matched. -/
structure State where
  before : List Char := []
  rest : List Char
  groups : List (Nat × List Char) := []

abbrev Next := State → Option State

def isWord (c : Char) : Bool :=
  c.isAlphanum || c = '_'

/-- What a match has to be: a part of the text, whole words, or all of it. -/
inductive Extension where
  | part
  | words
  | all
  deriving DecidableEq, Repr

structure Manner where
  ignoresCase : Bool := false
  byLine : Bool := false
  extension : Extension := .part

def Extension.allows (extension : Extension) (first last : State) : Bool :=
  match extension with
  | .part => true
  | .words => !first.before.head?.any isWord && !last.rest.head?.any isWord
  | .all => first.before = [] && last.rest = []

def fold (ignoresCase : Bool) (c : Char) : Char :=
  if ignoresCase then c.toLower else c

def standsAt (byLine : Bool) (edge : Edge) (state : State) : Bool :=
  let left := state.before.head?.any isWord
  let right := state.rest.head?.any isWord
  match edge with
  | .textStart => state.before = []
  | .textEnd => state.rest = []
  | .lineStart => state.before = [] || (byLine && state.before.head? = some '\n')
  | .lineEnd => state.rest = [] || (byLine && state.rest.head? = some '\n')
  | .wordStart => !left && right
  | .wordEnd => left && !right
  | .word => left != right
  | .noWord => left == right

def holds (ignoresCase negated : Bool) (members : List (Char × Char)) (c : Char) : Bool :=
  let within (c : Char) : Bool :=
    members.any fun member => member.1.toNat ≤ c.toNat && c.toNat ≤ member.2.toNat
  (within c || (ignoresCase && (within c.toLower || within c.toUpper))) != negated

def acceptMany (one : State → Next → Option State) :
    Nat → Nat → Option Nat → State → Next → Option State
  | 0, least, _, state, next => if least = 0 then next state else none
  | rounds + 1, least, most, state, next =>
    let further : Option State :=
      if most = some 0 then none
      else one state fun after =>
        if least = 0 ∧ after.rest.length = state.rest.length then none
        else acceptMany one rounds (least - 1) (most.map (· - 1)) after next
    match further with
    | some found => some found
    | none => if least = 0 then next state else none

def accept (manner : Manner) : Regex → State → Next → Option State
  | .empty, state, next => next state
  | .one negated members, state, next =>
    match state.rest with
    | c :: rest =>
      if holds manner.ignoresCase negated members c then
        next { state with before := c :: state.before, rest }
      else none
    | [] => none
  | .edge place, state, next => if standsAt manner.byLine place state then next state else none
  | .sequence first second, state, next =>
    accept manner first state fun after => accept manner second after next
  | .either first second, state, next =>
    match accept manner first state next with
    | some found => some found
    | none => accept manner second state next
  | .group number inner, state, next =>
    accept manner inner state fun after =>
      let taken := (after.before.take (after.before.length - state.before.length)).reverse
      next { after with groups := (number,taken) :: after.groups }
  | .back number, state, next =>
    match state.groups.lookup number with
    | some taken =>
      let same := fold manner.ignoresCase
      if (taken.map same).isPrefixOf (state.rest.map same) then
        next { state with
          before := (state.rest.take taken.length).reverse ++ state.before
          rest := state.rest.drop taken.length }
      else none
    | none => none
  | .many inner least most, state, next =>
    acceptMany (accept manner inner) (state.rest.length + least + 1) least most state next

structure Match where
  before : List Char
  taken : List Char
  behind : List Char
  groups : List (Nat × List Char)

/-- Whether the longest way through an expression may be another than the first one found. -/
def hasChoice : Regex → Bool
  | .sequence first second => first.hasChoice || second.hasChoice
  | .either _ _ => true
  | .group _ inner => inner.hasChoice
  | .many inner _ _ => inner.hasChoice
  | _ => false

/-- Ways that leave less and less of the text, up to the one that leaves the least. -/
def improve (manner : Manner) (regex : Regex) (start : State) : Nat → State → State
  | 0, found => found
  | rounds + 1, found =>
    let better (after : State) : Option State :=
      if after.rest.length < found.rest.length ∧ manner.extension.allows start after then some after
      else none
    match accept manner regex start better with
    | some longer => improve manner regex start rounds longer
    | none => found

def matchAt (regex : Regex) (manner : Manner) (before rest : List Char) : Option Match :=
  let start : State := { before, rest }
  let allowed (after : State) : Option State :=
    if manner.extension.allows start after then some after else none
  (accept manner regex start allowed).map fun found =>
    let state := if regex.hasChoice then improve manner regex start rest.length found else found
    { before := before.reverse
      taken := (state.before.take (state.before.length - before.length)).reverse
      behind := state.rest, groups := state.groups }

def searchFrom (regex : Regex) (manner : Manner) : List Char → List Char → Option Match
  | before, [] => matchAt regex manner before []
  | before, c :: rest =>
    match matchAt regex manner before (c :: rest) with
    | some found => some found
    | none => searchFrom regex manner (c :: before) rest

def search (regex : Regex) (manner : Manner) (text : List Char) : Option Match :=
  searchFrom regex manner [] text

-- reading

def anyCharacter : Regex := .one true []

def letter (c : Char) : Regex := .one false [(c,c)]

def classMembers (name : String) : List (Char × Char) :=
  match name with
  | "alpha" => [('a','z'),('A','Z')]
  | "digit" => [('0','9')]
  | "alnum" => [('a','z'),('A','Z'),('0','9')]
  | "upper" => [('A','Z')]
  | "lower" => [('a','z')]
  | "space" => [('\t','\r'),(' ',' ')]
  | "blank" => [('\t','\t'),(' ',' ')]
  | "punct" => [('!','/'),(':','@'),('[','`'),('\x7b','~')]
  | "print" => [(' ','~')]
  | "graph" => [('!','~')]
  | "cntrl" => [('\x00','\x1f'),('\x7f','\x7f')]
  | "xdigit" => [('0','9'),('a','f'),('A','F')]
  | _ => []

def unclosedSet : String := "Unmatched [, [^, [:, [., or [="
def unclosedGroup : String := "Unmatched ( or \\("

def classNames : List String :=
  ["alpha","digit","alnum","upper","lower","space","blank","punct","print","graph",
    "cntrl","xdigit"]

def cutMember? (mark : Char) (text : List Char) : Option (List Char × List Char) :=
  let name := text.takeWhile (· ≠ mark)
  match text.drop name.length with
  | _ :: ']' :: behind => some (name,behind)
  | _ => none

def cutSet : Nat → Bool → List Char → Except String (List (Char × Char) × List Char)
  | 0, _, _ => .error unclosedSet
  | steps + 1, isFirst, text =>
    let go (members : List (Char × Char)) (rest : List Char) :
        Except String (List (Char × Char) × List Char) := do
      let (others,rest) ← cutSet steps false rest
      .ok (members ++ others,rest)
    match text with
    | [] => .error (if isFirst then "Invalid regular expression" else unclosedSet)
    | '[' :: ':' :: rest =>
      match cutMember? ':' rest with
      | some (name,behind) =>
        if classNames.contains (String.ofList name) then
          go (classMembers (String.ofList name)) behind
        else .error "Invalid character class name"
      | none => go [('[','[')] (':' :: rest)
    | '[' :: '=' :: rest =>
      match cutMember? '=' rest with
      | some ([c],behind) => go [(c,c)] behind
      | _ => .error "Invalid collation character"
    | '[' :: '.' :: rest =>
      match cutMember? '.' rest with
      | some ([c],behind) => go [(c,c)] behind
      | _ => .error "Invalid collation character"
    | c :: rest =>
      if c = ']' ∧ isFirst = false then .ok ([],rest)
      else
        match rest with
        | '-' :: last :: behind =>
          if last = ']' then go [(c,c)] rest
          else if last.toNat < c.toNat then .error "Invalid range end"
          else go [(c,last)] behind
        | _ => go [(c,c)] rest

inductive BoundsFault where
  | unclosed
  | content
  | size
  deriving DecidableEq, Repr

def BoundsFault.text : BoundsFault → String
  | .unclosed => "Unmatched \\\x7b"
  | .content => "Invalid content of \\\x7b\\\x7d"
  | .size => "Regular expression too big"

def mostRepetitions : Nat := 32767

def cutBounds (closing : List Char) (text : List Char) :
    Except BoundsFault (Nat × Option Nat × List Char) := do
  let (low,rest) := text.span Char.isDigit
  let (isRange,high,rest) := match rest with
    | ',' :: rest => (true,rest.span Char.isDigit)
    | _ => (false,low,rest)
  if rest = [] then .error .unclosed
  else if ¬ closing.isPrefixOf rest ∨ (low = [] ∧ isRange = false) then .error .content
  else
    let least := (Number.readNat low).getD 0
    let most := Number.readNat high
    if mostRepetitions < least ∨ most.any (mostRepetitions < ·) then .error .size
    else if most.any (· < least) then .error .content
    else .ok (least,most,rest.drop closing.length)

/-- The marks in front of a text: a mark is written with or without a backslash. -/
def mark? (extended : Bool) (text : List Char) : Option (Char × List Char) :=
  let marks := "()|\x7b\x7d+?".toList
  match text with
  | '\\' :: c :: rest => if extended = false ∧ marks.contains c then some (c,rest) else none
  | c :: rest => if extended ∧ marks.contains c then some (c,rest) else none
  | [] => none

def repeated (extended : Bool) : Nat → Regex → List Char → Except String (Regex × List Char)
  | 0, inner, text => .ok (inner,text)
  | steps + 1, inner, text =>
    match text, mark? extended text with
    | '*' :: rest, _ => repeated extended steps (.many inner 0 none) rest
    | _, some ('+',rest) => repeated extended steps (.many inner 1 none) rest
    | _, some ('?',rest) => repeated extended steps (.many inner 0 (some 1)) rest
    | _, some ('\x7b',rest) =>
      match cutBounds (if extended then ['\x7d'] else ['\\','\x7d']) rest with
      | .ok (least,most,behind) => repeated extended steps (.many inner least most) behind
      | .error fault =>
        let isText := extended && (fault = .unclosed || !rest.head?.any Char.isDigit)
        if isText then .ok (inner,text) else .error fault.text
    | _, _ => .ok (inner,text)

def wordCharacters : List (Char × Char) :=
  [('a','z'),('A','Z'),('0','9'),('_','_')]

def escaped (groups : Nat) (c : Char) : Except String Regex :=
  match c with
  | 'w' => .ok (.one false wordCharacters)
  | 'W' => .ok (.one true wordCharacters)
  | 's' => .ok (.one false [('\t','\r'),(' ',' ')])
  | 'S' => .ok (.one true [('\t','\r'),(' ',' ')])
  | 'b' => .ok (.edge .word)
  | 'B' => .ok (.edge .noWord)
  | '<' => .ok (.edge .wordStart)
  | '>' => .ok (.edge .wordEnd)
  | '`' => .ok (.edge .textStart)
  | '\'' => .ok (.edge .textEnd)
  | _ =>
    if c.isDigit ∧ c ≠ '0' then
      let number := c.toNat - '0'.toNat
      if number ≤ groups then .ok (.back number) else .error "Invalid back reference"
    else .ok (letter c)

structure Part where
  regex : Regex
  groups : Nat
  rest : List Char

mutual

def readEither (extended : Bool) : Nat → (depth groups : Nat) → List Char → Except String Part
  | 0, _, _, _ => .error "Memory exhausted"
  | steps + 1, depth, groups, text => do
    let first ← readSequence extended steps depth groups true text
    match mark? extended first.rest with
    | some ('|',rest) => do
      let second ← readEither extended steps depth first.groups rest
      .ok { second with regex := .either first.regex second.regex }
    | _ => .ok first

/-- Reads one thing after the other. A star with nothing before it stands for itself. -/
def readSequence (extended : Bool) :
    Nat → (depth groups : Nat) → Bool → List Char → Except String Part
  | 0, _, _, _, _ => .error "Memory exhausted"
  | steps + 1, depth, groups, isFirst, text => do
    let go (single : Regex) (groups : Nat) (rest : List Char) : Except String Part := do
      let (single,rest) ← repeated extended rest.length single rest
      let others ← readSequence extended steps depth groups false rest
      .ok { others with regex := .sequence single others.regex }
    match text, mark? extended text with
    | [], _ => .ok { regex := .empty, groups, rest := [] }
    | _, some ('(',rest) => do
      let inner ← readEither extended steps (depth + 1) (groups + 1) rest
      match mark? extended inner.rest with
      | some (')',rest) => go (.group (groups + 1) inner.regex) inner.groups rest
      | _ => .error unclosedGroup
    | _, some ('|',_) => .ok { regex := .empty, groups, rest := text }
    | _, some (')',rest) =>
      if 0 < depth then .ok { regex := .empty, groups, rest := text }
      else if extended then go (letter ')') groups rest
      else .error "Unmatched ) or \\)"
    | _, some (c,rest) =>
      if isFirst ∧ (c = '+' ∨ c = '?') then
        if extended then readSequence extended steps depth groups true rest
        else go (letter c) groups rest
      else go (letter c) groups rest
    | '*' :: rest, _ =>
      if extended then readSequence extended steps depth groups true rest
      else go (letter '*') groups rest
    | '^' :: rest, _ =>
      if isFirst ∨ extended then do
        let others ← readSequence extended steps depth groups true rest
        .ok { others with regex := .sequence (.edge .lineStart) others.regex }
      else go (letter '^') groups rest
    | '$' :: rest, _ =>
      let closes : Bool := match mark? extended rest with
        | some (c,_) => c = ')' || c = '|'
        | none => false
      if rest = [] ∨ closes ∨ extended then go (.edge .lineEnd) groups rest
      else go (letter '$') groups rest
    | '.' :: rest, _ => go anyCharacter groups rest
    | ['[','^'], _ => .error unclosedSet
    | '[' :: '^' :: rest, _ => do
      let (members,rest) ← cutSet (rest.length + 1) true rest
      go (.one true members) groups rest
    | '[' :: rest, _ => do
      let (members,rest) ← cutSet (rest.length + 1) true rest
      go (.one false members) groups rest
    | ['\\'], _ => .error "Trailing backslash"
    | '\\' :: c :: rest, _ => do go (← escaped groups c) groups rest
    | c :: rest, _ => go (letter c) groups rest

end

def read (extended : Bool) (text : List Char) : Except String Regex := do
  let part ← readEither extended (2 * text.length + 4) 0 0 text
  .ok part.regex

def literal (text : List Char) : Regex :=
  text.foldr (fun c rest => .sequence (letter c) rest) .empty

def groupCount : Regex → Nat
  | .sequence first second => first.groupCount + second.groupCount
  | .either first second => first.groupCount + second.groupCount
  | .group _ inner => inner.groupCount + 1
  | .many inner _ _ => inner.groupCount
  | _ => 0

end Regex
end CollectorBench.Programs
