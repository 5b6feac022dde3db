import CollectorBench.Chart.ColourMap
import Mathlib.Data.List.Nodup

/-! The colours of labelled sets.
A known strategy has its own colour, and the others take those of the palette in turn. The colours
are looked up by label, so with distinct labels every entry finds the one that it was given. -/
namespace CollectorBench

/-- The colour of a set when there are so many sets of other strategies before it. -/
def Strategy.colourBehind (others : Nat) : Strategy → Option Colour
  | .trace => some .ofTrace
  | .arena => some .ofArena
  | .rc => some .ofRc
  | .other _ => Colour.palette[others % 5]?

namespace LabeledResults

/-- The number of sets of other than the known strategies. -/
def others (entries : LabeledResults) : Nat :=
  entries.countP fun entry => !entry.strategy.isKnown

end LabeledResults

namespace Colour

theorem palette_getElem? (turn : Nat) : palette[turn % 5]? = some (inTurn turn) := by
  have bound : turn % 5 < palette.length := Nat.mod_lt turn (by decide)
  have inside : palette[turn % 5]? = some palette[turn % 5] := List.getElem?_eq_getElem bound
  have turns : inTurn turn = (palette[turn % 5]?).getD fallback := List.getD_eq_getElem?_getD
  rw [turns,inside,Option.getD_some]

end Colour

namespace ColourMap
open LabeledResults

theorem assign_cons (turn : Nat) (entry : LabeledSet) (later : LabeledResults) :
    ∃ colour, entry.strategy.colourBehind turn = some colour ∧
      assign turn (entry :: later) = (entry.label,colour) :: assign (turn + others [entry]) later := by
  simp only [assign,others,List.countP_singleton]
  cases entry.strategy with
  | other stem => exact ⟨_,Colour.palette_getElem? turn,rfl⟩
  | _ => exact ⟨_,rfl,rfl⟩

/-- Every entry finds the colour that comes to it behind the entries before it. -/
theorem get?_assign (turn : Nat) {entries : LabeledResults} (distinct : entries.labels.Nodup)
    {index : Nat} {entry : LabeledSet} (found : entries[index]? = some entry) :
    (assign turn entries).get? entry.label =
      entry.strategy.colourBehind (turn + others (entries.take index)) := by
  induction entries generalizing turn index with
  | nil => simp at found
  | cons first later ih =>
    obtain ⟨fresh,rest⟩ := List.nodup_cons.mp distinct
    obtain ⟨colour,given,shape⟩ := assign_cons turn first later
    rw [shape]
    cases index with
    | zero =>
      obtain rfl : first = entry := by simpa using found
      simp [get?,others,given]
    | succ index =>
      rw [List.getElem?_cons_succ] at found
      have differs : first.label ≠ entry.label := by
        intro same
        apply fresh
        rw [same]
        exact List.mem_map_of_mem (List.mem_of_getElem? found)
      have behind := ih (turn + others [first]) rest found
      have counted : others (first :: later.take index) = others [first] + others (later.take index) := by
        change others ([first] ++ later.take index) = _
        exact List.countP_append
      rw [List.take_succ_cons,counted,← Nat.add_assoc,← behind]
      simp [get?,differs]

end ColourMap
end CollectorBench
