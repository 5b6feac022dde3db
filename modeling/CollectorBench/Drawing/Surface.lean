import CollectorBench.Failure
import CollectorBench.Chart.Colour
/-! Drawing on a surface, call by call.
A drawing is a list of calls in the order in which they are made. A surface may refuse a call, and
then no later one is made. -/
namespace CollectorBench

/-- A pixel; y grows downwards. -/
structure Point where
  x : Int
  y : Int
  deriving DecidableEq, Repr

structure Area where
  left : Int
  top : Int
  right : Int
  bottom : Int
  deriving DecidableEq, Repr

namespace Area

/-- The number or, if it is outside, the nearer end; the lower end where the ends are crossed. -/
def limit (low high n : Int) : Int :=
  max (min n high) low

def clip (area : Area) (point : Point) : Point :=
  ⟨limit area.left area.right point.x,limit area.top area.bottom point.y⟩

def spanning (a b : Point) : Area :=
  ⟨min a.x b.x,min a.y b.y,max a.x b.x,max a.y b.y⟩

end Area

structure Ink where
  colour : Colour
  half : Bool := false
  deriving DecidableEq, Repr

def Ink.text (ink : Ink) : String :=
  if ink.half then ink.colour.text ++ "*0.5" else ink.colour.text

inductive AxisName where
  | x
  | y
  deriving DecidableEq, Repr

inductive Call where
  | background (ink : Ink) (area : Area)
  | title (text : String) (place : Point)
  | caption (text : String) (place : Point)
  | axisLabel (axis : AxisName) (text : String) (place : Point)
  | tick (axis : AxisName) (text : String) (pixel : Int)
  | bar (ink : Ink) (area : Area)
  | boxLine (ink : Ink) (start stop : Point)
  | boxBody (ink : Ink) (area : Area)
  | legend (label : String) (ink : Ink)
  | noteArea (ink : Ink) (area : Area)
  | noteText (text : String) (place : Point)
  | present
  deriving DecidableEq, Repr

def Call.text? : Call → Option String
  | .title text _ => some text
  | .caption text _ => some text
  | .axisLabel _ text _ => some text
  | .tick _ text _ => some text
  | .legend label _ => some label
  | .noteText text _ => some text
  | _ => none

/-- A call and the number of the panel that it belongs to; a call for the whole sheet has none. -/
structure Stroke where
  panel : Option Nat
  call : Call
  deriving DecidableEq, Repr

/-- What a surface says to a call: nothing if it takes it, else why it refuses it. -/
abbrev Surface := Call → Option String

/-- A surface that remembers: what it says may depend on the calls that it has taken, the latest
first. -/
abbrev RememberingSurface := List Call → Surface

def refusal (reason : String) : Failure :=
  .render ("backend error: Drawing backend error: " ++ reason)

def perform (surface : RememberingSurface) (taken : List Call) :
    List Stroke → List Stroke × Except Failure Unit
  | [] => ([],.ok ())
  | stroke :: later =>
    match surface taken stroke.call with
    | some reason => ([],.error (refusal reason))
    | none =>
      let (drawn,outcome) := perform surface (stroke.call :: taken) later
      (stroke :: drawn,outcome)

end CollectorBench
