import CollectorBench.Number.Integer
/-! Labels that tell results of one strategy apart.
The first label of a base is the base itself, the next ones are numbered from two. A number that
would repeat a label handed out before, for whatever base, is passed over. -/
namespace CollectorBench

def numberedLabel (base : String) (number : Nat) : String :=
  if number ≤ 1 then base else base ++ "_" ++ String.ofList (Number.natText number)

structure LabelState where
  counts : List (String × Nat) := []
  used : List String := []
  deriving Repr

namespace LabelState

def count (state : LabelState) (base : String) : Nat :=
  ((state.counts.find? fun entry => entry.1 = base).map (·.2)).getD 0

def setCount (counts : List (String × Nat)) (base : String) (number : Nat) : List (String × Nat) :=
  (base,number) :: counts.filter fun entry => decide (entry.1 ≠ base)

/-- The first number from `number` on whose label is not used, looking at no more than `steps` of
them. -/
def freshNumber (used : List String) (base : String) (number : Nat) : Nat → Nat
  | 0 => number
  | steps + 1 =>
    if numberedLabel base number ∈ used then freshNumber used base (number + 1) steps
    else number

/-- A label for a base and the state after it. Among one more number than there are used labels one
is fresh. -/
def next (state : LabelState) (base : String) : String × LabelState :=
  let number := freshNumber state.used base (state.count base + 1) state.used.length
  let label := numberedLabel base number
  (label,{ counts := setCount state.counts base number, used := label :: state.used })

def labels (state : LabelState) : List String → List String
  | [] => []
  | base :: later =>
    let (label,after) := state.next base
    label :: after.labels later

end LabelState

def firstUnused (used : List String) (base : String) : String :=
  numberedLabel base (LabelState.freshNumber used base 1 used.length)

end CollectorBench
