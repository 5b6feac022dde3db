/-! Columns of plain-text tables. -/
namespace CollectorBench.Text

/-- The text with spaces behind it up to a width; longer text is not cut. -/
def column (width : Nat) (text : List Char) : List Char :=
  text ++ List.replicate (width - text.length) ' '

theorem length_column (width : Nat) (text : List Char) :
    (column width text).length = max width text.length := by
  simp [column]
  omega

theorem column_of_wide {width : Nat} {text : List Char} (wide : width ≤ text.length) :
    column width text = text := by
  simp [column,Nat.sub_eq_zero_of_le wide]

end CollectorBench.Text
