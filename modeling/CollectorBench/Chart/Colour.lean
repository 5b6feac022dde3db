/-! Colours, and those that a chart uses. -/
namespace CollectorBench

structure Colour where
  red : UInt8
  green : UInt8
  blue : UInt8
  deriving DecidableEq, Repr, Inhabited

namespace Colour

def byteText (byte : UInt8) : List Char :=
  [Nat.digitChar (byte.toNat / 16),Nat.digitChar (byte.toNat % 16)]

def text (colour : Colour) : String :=
  String.ofList ('#' :: (byteText colour.red ++ byteText colour.green ++ byteText colour.blue))

def white : Colour := ⟨0xff,0xff,0xff⟩

def ofTrace : Colour := ⟨0x34,0x98,0xdb⟩

def ofRc : Colour := ⟨0xe7,0x4c,0x3c⟩

def ofArena : Colour := ⟨0x2e,0xcc,0x71⟩

/-- The first colour of the palette, and the one of a label that has none. -/
def fallback : Colour := ⟨0x9b,0x59,0xb6⟩

def palette : List Colour :=
  [fallback,⟨0xf3,0x9c,0x12⟩,⟨0x1a,0xbc,0x9c⟩,⟨0x34,0x49,0x5e⟩,⟨0xe6,0x7e,0x22⟩]

def inTurn (turn : Nat) : Colour :=
  palette.getD (turn % palette.length) fallback

end Colour

end CollectorBench
