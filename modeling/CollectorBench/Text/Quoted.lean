import CollectorBench.Text.Hidden
/-! Text in double quotes, as error messages show a value.
The quote and the backslash are escaped, four controls have a letter of their own, and every other
character without a visible form is written by its code. -/
namespace CollectorBench.Text

def codeEscape (c : Char) : List Char :=
  ['\\','u','\x7b'] ++ Nat.toDigits 16 c.toNat ++ ['\x7d']

def escaped (c : Char) : List Char :=
  if c = '"' then ['\\','"']
  else if c = '\\' then ['\\','\\']
  else if c = '\n' then ['\\','n']
  else if c = '\r' then ['\\','r']
  else if c = '\t' then ['\\','t']
  else if c = '\x00' then ['\\','0']
  else if isHidden c then codeEscape c
  else [c]

def quoted (text : String) : String :=
  String.ofList ('"' :: (text.toList.flatMap escaped ++ ['"']))

end CollectorBench.Text
