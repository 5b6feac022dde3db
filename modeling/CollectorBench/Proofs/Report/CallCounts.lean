import CollectorBench.Report.Table
import CollectorBench.Proofs.Number.WholeWords

/-! The column of the calls.
The number of calls of a run becomes a double before it is shown as a whole number again. So a count
with more than 53 bits is shown as the nearest one that a double can be. -/
namespace CollectorBench.RunTable
open Text Number

/-- The number that the row of a run shows as its calls. -/
def shownCalls (record : RunRecord) : Int64 :=
  wholeWord (record.value .gcCalls)

theorem drop_row {record : RunRecord} (index : (int64Text record.runIndex).length ≤ 6)
    (total : (int64Text record.totalGcTime).length ≤ 16) :
    ∃ rest, (row record).drop 22 = column 10 (int64Text (shownCalls record)) ++ rest := by
  have shape : ∃ rest, row record = column 6 (int64Text record.runIndex) ++
      (column 16 (int64Text record.totalGcTime) ++
        (column 10 (int64Text (shownCalls record)) ++ rest)) := ⟨_,rfl⟩
  obtain ⟨rest,shape⟩ := shape
  rw [← List.append_assoc] at shape
  have front : (column 6 (int64Text record.runIndex) ++
      column 16 (int64Text record.totalGcTime)).length = 22 := by
    rw [List.length_append,length_column,length_column]
    omega
  exact ⟨rest,by rw [shape,List.drop_left' front]⟩

/-- Behind an index and a total time that fit in their columns a row shows as the calls a nearest
number of 53 bits. That is the count of the run exactly for those that have at most 53 bits in front of
the zeros at their ends, and for the largest word of all. -/
theorem calls_column (record : RunRecord) :
    ((int64Text record.runIndex).length ≤ 6 → (int64Text record.totalGcTime).length ≤ 16 →
      ∃ rest, (row record).drop 22 = column 10 (int64Text (shownCalls record)) ++ rest) ∧
    (∃ whole : Int, Nearest whole record.gcCallCount.toInt ∧
      shownCalls record = saturated whole) ∧
    (shownCalls record = record.gcCallCount ↔ record.gcCallCount = Int64.maxValue ∨
      ∃ bits zeros : Nat, bits < 2^53 ∧ record.gcCallCount.toInt.natAbs = bits * 2 ^ zeros) :=
  ⟨drop_row,wholeWord_ofWord record.gcCallCount,wholeWord_ofWord_eq_iff record.gcCallCount⟩

/-- A run with as many calls as given and little else. -/
def counted (calls : Int64) : RunRecord :=
  { runIndex := 1, totalGcTime := 1, gcCallCount := calls, maxGcTime := 1
    avgResidentBytes := 1, peakResidentBytes := 1, reserved := 1 }

/-- Three times two to the sixtieth has few bits in front of its zeros. -/
theorem calls_column_of_few_bits : shownCalls (counted 3458764513820540928) = 3458764513820540928 ∧
    ∃ rest, (row (counted 3458764513820540928)).drop 22 =
      column 10 (int64Text 3458764513820540928) ++ rest := by
  obtain ⟨placed,-,same⟩ := calls_column (counted 3458764513820540928)
  have shown := same.mpr (.inr ⟨3,60,by decide,by decide⟩)
  rw [shown] at placed
  exact ⟨shown,placed (by decide) (by decide)⟩

/-- The first whole number with too many bits is shown as its even neighbour. -/
theorem not_calls_column_exact : ¬∀ record : RunRecord,
    (int64Text record.runIndex).length ≤ 6 → (int64Text record.totalGcTime).length ≤ 16 →
      ∃ rest, (row record).drop 22 = column 10 (int64Text record.gcCallCount) ++ rest := by
  intro all
  have index : (int64Text (counted 9007199254740993).runIndex).length ≤ 6 := by decide
  have total : (int64Text (counted 9007199254740993).totalGcTime).length ≤ 16 := by decide
  obtain ⟨rest,right⟩ := all (counted 9007199254740993) index total
  obtain ⟨other,shown⟩ := drop_row index total
  have neighbour : shownCalls (counted 9007199254740993) = 9007199254740992 := by decide +kernel
  rw [neighbour,right] at shown
  have texts := List.append_inj_left shown (by decide)
  exact absurd texts (by decide)

end CollectorBench.RunTable
