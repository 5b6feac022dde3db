import CollectorBench.Drawing.Surface
/-! Where panels and their parts are on a sheet. -/
namespace CollectorBench

/-- Where the part with a given number begins when a length from `start` to `stop` is cut in so many
parts; the first parts take the pixels that are left over. -/
def partStart (start stop : Nat) (parts number : Nat) : Nat :=
  let length := stop - start
  start + number * (length / parts) + min number (length % parts)

namespace Area

def titleHeight : Nat := 34

def cells (width height : Nat) : List Area :=
  [0,1].flatMap fun row =>
    [0,1,2].map fun column =>
      { left := partStart 0 width 3 column
        top := partStart titleHeight height 2 row
        right := partStart 0 width 3 (column + 1)
        bottom := partStart titleHeight height 2 (row + 1) }

def plot (cell : Area) (yLabelWidth : Int) : Area :=
  { left := cell.left + 8 + yLabelWidth
    top := cell.top + 34
    right := cell.right - 8
    bottom := cell.bottom - 43 }

def captionPlace (cell : Area) : Point :=
  ⟨cell.left + 8 + (cell.right - cell.left - 16) / 2,cell.top + 13⟩

def xLabelPlace (plot : Area) : Point :=
  ⟨plot.left + (plot.right - plot.left) / 2,plot.bottom + 35⟩

end Area
end CollectorBench
