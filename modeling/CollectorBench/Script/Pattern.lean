import CollectorBench.Text.Cut
/-! Patterns for texts.
A star stands for any text, a question mark for one character, and brackets for one of a set. A
pattern has to fit the whole text. -/
namespace CollectorBench.Script

structure Mark where
  character : Char
  active : Bool
  deriving DecidableEq, Repr

inductive Member where
  | range (first last : Char)
  | kind (name : String)
  deriving DecidableEq, Repr

inductive Atom where
  | one (character : Char)
  | any
  | many
  | set (negated : Bool) (members : List Member)
  deriving DecidableEq, Repr

def between (first last c : Char) : Bool :=
  first.toNat ≤ c.toNat && c.toNat ≤ last.toNat

def ofKind (name : String) (c : Char) : Bool :=
  match name with
  | "alpha" => c.isAlpha
  | "digit" => c.isDigit
  | "alnum" => c.isAlphanum
  | "upper" => c.isUpper
  | "lower" => c.isLower
  | "space" => c = ' ' || between '\t' '\r' c
  | "blank" => c = ' ' || c = '\t'
  | "punct" => between '!' '~' c && !c.isAlphanum
  | "print" => between ' ' '~' c
  | "graph" => between '!' '~' c
  | "cntrl" => between '\x00' '\x1f' c || c = '\x7f'
  | "xdigit" => c.isDigit || between 'a' 'f' c || between 'A' 'F' c
  | _ => false

def Member.holds (c : Char) : Member → Bool
  | .range first last => between first last c
  | .kind name => ofKind name c

def Atom.fits (c : Char) : Atom → Bool
  | .one character => c = character
  | .any => true
  | .many => false
  | .set negated members => members.any (·.holds c) != negated

namespace Pattern

def cutKind? (marks : List Mark) : Option (String × List Mark) :=
  let (name,rest) := marks.span fun mark => mark.character.isAlpha
  match rest with
  | ⟨':',true⟩ :: ⟨']',true⟩ :: behind =>
    some (String.ofList (name.map (·.character)),behind)
  | _ => none

/-- The members of a set up to its closing bracket, and the marks behind. A bracket that is the
first member closes nothing. -/
def cutMembers? : Nat → Bool → List Mark → Option (List Member × List Mark)
  | 0, _, _ => none
  | steps + 1, isFirst, marks =>
    match marks with
    | [] => none
    | mark :: rest =>
      if mark = ⟨']',true⟩ ∧ isFirst = false then some ([],rest)
      else
        let kind? := match mark, rest with
          | ⟨'[',true⟩, ⟨':',true⟩ :: behind => cutKind? behind
          | _, _ => none
        match kind? with
        | some (name,behind) =>
          (cutMembers? steps false behind).map fun (members,rest) => (.kind name :: members,rest)
        | none =>
          match rest with
          | ⟨'-',true⟩ :: last :: behind =>
            if last = ⟨']',true⟩ then
              (cutMembers? steps false rest).map fun (members,rest) =>
                (.range mark.character mark.character :: members,rest)
            else
              (cutMembers? steps false behind).map fun (members,rest) =>
                (.range mark.character last.character :: members,rest)
          | _ =>
            (cutMembers? steps false rest).map fun (members,rest) =>
              (.range mark.character mark.character :: members,rest)

def cutSet? (marks : List Mark) : Option (Atom × List Mark) :=
  let (negated,marks) := match marks with
    | ⟨'!',true⟩ :: rest => (true,rest)
    | ⟨'^',true⟩ :: rest => (true,rest)
    | _ => (false,marks)
  (cutMembers? (marks.length + 1) true marks).map fun (members,rest) =>
    (.set negated members,rest)

/-- The atoms of a pattern, of which no more than a given number are read. A backslash makes the
character behind it stand for itself. -/
def atomsFrom : Nat → List Mark → List Atom
  | 0, _ => []
  | _, [] => []
  | steps + 1, mark :: rest =>
    match mark with
    | ⟨'*',true⟩ => .many :: atomsFrom steps rest
    | ⟨'?',true⟩ => .any :: atomsFrom steps rest
    | ⟨'[',true⟩ =>
      match cutSet? rest with
      | some (atom,behind) => atom :: atomsFrom steps behind
      | none => .one '[' :: atomsFrom steps rest
    | ⟨'\\',true⟩ =>
      match rest with
      | next :: behind => .one next.character :: atomsFrom steps behind
      | [] => [.one '\\']
    | ⟨c,_⟩ => .one c :: atomsFrom steps rest

def atoms (marks : List Mark) : List Atom :=
  atomsFrom marks.length marks

def fits : List Atom → List Char → Bool
  | [], text => text.isEmpty
  | .many :: atoms, text =>
    (List.range (text.length + 1)).any fun cut => fits atoms (text.drop cut)
  | _ :: _, [] => false
  | atom :: atoms, c :: text => atom.fits c && fits atoms text

def trimFront (atoms : List Atom) (longest : Bool) (text : List Char) : List Char :=
  let cuts := List.range (text.length + 1)
  let cuts := if longest then cuts.reverse else cuts
  match cuts.find? fun cut => fits atoms (text.take cut) with
  | some cut => text.drop cut
  | none => text

def trimBack (atoms : List Atom) (longest : Bool) (text : List Char) : List Char :=
  let cuts := List.range (text.length + 1)
  let cuts := if longest then cuts else cuts.reverse
  match cuts.find? fun cut => fits atoms (text.drop cut) with
  | some cut => text.take cut
  | none => text

def isActive (marks : List Mark) : Bool :=
  marks.any fun mark => mark.active && "*?[".toList.contains mark.character

end Pattern
end CollectorBench.Script
