import CollectorBench.Text.Blank
import CollectorBench.Text.Cut
/-! The collection strategy that a file name tells of.
The coarse classifier looks for the names of the strategies anywhere in the stem, the strict one
for whole words of it. Both look for trace first, then arena, then rc, in any case of letters.
Lower-casing ASCII letters is enough for that: no other character has one of the letters of these
names in its lower-case form, and none has a separator. -/
namespace CollectorBench

inductive Strategy where
  | trace
  | arena
  | rc
  | other (stem : String)
  deriving DecidableEq, Repr

namespace Strategy

/-- The known strategies in the order in which they are looked for. -/
def known : List Strategy :=
  [.trace,.arena,.rc]

def base : Strategy → String
  | .trace => "trace"
  | .arena => "arena"
  | .rc => "rc"
  | .other stem => stem

def isKnown : Strategy → Bool
  | .other _ => false
  | _ => true

def firstKnown (test : List Char → Bool) (stem : String) : Strategy :=
  (known.find? fun strategy => test strategy.base.toList).getD (.other stem)

end Strategy

/-- A way to tell the strategy from the stem of a file name. -/
abbrev Classifier := String → Strategy

namespace Classifier
open Text

def lowered (stem : String) : List Char :=
  stem.toList.map Char.toLower

def separatesWords (c : Char) : Bool :=
  c = '-' || c = '_' || c = '.' || isBlank c

def words : List Char → List (List Char)
  | [] => [[]]
  | c :: rest =>
    if separatesWords c then [] :: words rest
    else match words rest with
      | [] => [[c]]
      | word :: later => (c :: word) :: later

/-- A strategy named anywhere in the stem. -/
def coarse : Classifier := fun stem =>
  Strategy.firstKnown (fun name => occursIn name (lowered stem)) stem

/-- A strategy named by a whole word of the stem. -/
def strict : Classifier := fun stem =>
  Strategy.firstKnown (fun name => (words (lowered stem)).contains name) stem

end Classifier
end CollectorBench
