import CollectorBench.Number.Integer
/-! JSON documents and their indented text.
The members of an object are written in the order they are given in, each on a line of its own,
two spaces deeper than the object. -/
namespace CollectorBench
open Number

/-- A document; a number is kept as its text. -/
inductive Json where
  | null
  | number (text : List Char)
  | string (text : String)
  | list (items : List Json)
  | object (members : List (String × Json))

namespace Json

def hexDigit (n : Nat) : Char :=
  Nat.digitChar (n % 16)

def escaped (c : Char) : List Char :=
  if c = '"' then ['\\','"']
  else if c = '\\' then ['\\','\\']
  else if c = '\x08' then ['\\','b']
  else if c = '\x0c' then ['\\','f']
  else if c = '\n' then ['\\','n']
  else if c = '\r' then ['\\','r']
  else if c = '\t' then ['\\','t']
  else if c.toNat < 32 then ['\\','u','0','0',hexDigit (c.toNat / 16),hexDigit c.toNat]
  else [c]

def stringText (text : String) : List Char :=
  '"' :: (text.toList.flatMap escaped ++ ['"'])

def indent (depth : Nat) : List Char :=
  '\n' :: List.replicate (2 * depth) ' '

/-- Items between brackets, each on a line of its own; no items leave the brackets together. -/
def enclosed (depth : Nat) (opening closing : Char) (items : List (List Char)) : List Char :=
  match items with
  | [] => [opening,closing]
  | first :: later =>
    opening :: (indent (depth + 1) ++ first ++
      (later.flatMap fun item => ',' :: (indent (depth + 1) ++ item)) ++ indent depth ++ [closing])

mutual

def textAt (depth : Nat) : Json → List Char
  | null => "null".toList
  | number text => text
  | string text => stringText text
  | list items => enclosed depth '[' ']' (itemTexts (depth + 1) items)
  | object members => enclosed depth '\x7b' '\x7d' (memberTexts (depth + 1) members)

def itemTexts (depth : Nat) : List Json → List (List Char)
  | [] => []
  | item :: later => textAt depth item :: itemTexts depth later

def memberTexts (depth : Nat) : List (String × Json) → List (List Char)
  | [] => []
  | (key,value) :: later =>
    (stringText key ++ ": ".toList ++ textAt depth value) :: memberTexts depth later

end

def text (document : Json) : String :=
  String.ofList (textAt 0 document)

def ofNat (n : Nat) : Json :=
  number (natText n)

end Json
end CollectorBench
