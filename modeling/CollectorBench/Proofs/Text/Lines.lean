import CollectorBench.Proofs.Text.Encoding
import CollectorBench.Proofs.Text.Pieces

/-! Lines of joined bytes and of written text. -/
namespace CollectorBench.Text

/-- Bytes in which every line has its line feed. -/
def Complete (bytes : Bytes) : Prop :=
  bytes = [] ∨ bytes.getLast? = some lineFeed

private theorem complete_of_cons {byte : UInt8} {rest : Bytes} (inside : rest ≠ [])
    (complete : Complete (byte :: rest)) : Complete rest := by
  obtain ⟨next,later,rfl⟩ := List.exists_cons_of_ne_nil inside
  rcases complete with empty | last
  · cases empty
  · exact .inr (by simpa [List.getLast?_cons_cons] using last)

theorem lines_ne_nil {bytes : Bytes} (inside : bytes ≠ []) : lines bytes ≠ [] := by
  obtain ⟨byte,rest,rfl⟩ := List.exists_cons_of_ne_nil inside
  simp only [lines]
  split
  · exact List.cons_ne_nil _ _
  · split <;> exact List.cons_ne_nil _ _

/-- No line goes on behind a line feed. -/
theorem lines_append {front : Bytes} (complete : Complete front) (back : Bytes) :
    lines (front ++ back) = lines front ++ lines back := by
  induction front with
  | nil => rfl
  | cons byte rest ih =>
    by_cases feed : byte = lineFeed
    · by_cases empty : rest = []
      · subst empty
        simp [lines,feed]
      · simp [lines,feed,ih (complete_of_cons empty complete)]
    · have inside : rest ≠ [] := by
        rintro rfl
        rcases complete with empty | last
        · cases empty
        · exact feed (by simpa using last)
      obtain ⟨line,later,shape⟩ := List.exists_cons_of_ne_nil (lines_ne_nil inside)
      have joined := ih (complete_of_cons inside complete)
      rw [shape] at joined
      simp [lines,feed,shape,joined]

/-- Text that was written line by line is read line by line. -/
theorem lines_encode (texts : List (List Char)) (inside : ∀ text ∈ texts, '\n' ∉ text) :
    lines (encode (String.ofList (texts.flatMap fun text => text ++ ['\n']))) =
      texts.map fun text => encode (String.ofList text) := by
  induction texts with
  | nil => rfl
  | cons text later ih =>
    have within : lineFeed ∉ encode (String.ofList text) := by
      rw [lineFeed_mem_encode_iff,String.toList_ofList]
      exact inside text (by simp)
    have split : encode (String.ofList ((text :: later).flatMap fun text => text ++ ['\n'])) =
        encode (String.ofList text) ++
          lineFeed :: encode (String.ofList (later.flatMap fun text => text ++ ['\n'])) := by
      have feed : String.utf8EncodeChar '\n' = [lineFeed] := by decide
      simp [encode_eq_flatMap,feed]
    rw [split,lines_append_lineFeed _ _ within,ih fun text member => inside text (by simp [member])]
    rfl

theorem lines_of_not_mem {bytes : Bytes} (inside : lineFeed ∉ bytes) :
    lines bytes = if bytes = [] then [] else [bytes] := by
  induction bytes with
  | nil => rfl
  | cons byte rest ih =>
    have differs : byte ≠ lineFeed := fun same => inside (by simp [same])
    have later := ih fun member => inside (by simp [member])
    rw [lines,if_neg differs,later]
    cases rest <;> rfl

private theorem complete_encode (texts : List (List Char)) :
    Complete (encode (String.ofList (texts.flatMap fun text => text ++ ['\n']))) := by
  rcases List.eq_nil_or_concat texts with rfl | ⟨earlier,last,rfl⟩
  · exact .inl rfl
  · refine .inr ?_
    have feed : encode (String.ofList ['\n']) = [lineFeed] := by decide
    simp only [List.concat_eq_append,List.flatMap_append,List.flatMap_cons,List.flatMap_nil,
      List.append_nil,encode_append,feed,List.getLast?_append,List.getLast?_singleton,Option.some_or]

/-- A text is read in the pieces between its line feeds, but for nothing behind the last. -/
theorem exists_lines_eq (text : List Char) : ∃ earlier last, fields '\n' text = earlier ++ [last] ∧
    lines (encode (String.ofList text)) =
      (earlier ++ if last = [] then [] else [last]).map fun piece => encode (String.ofList piece) := by
  obtain ⟨earlier,last,pieces,whole,inside,within⟩ := exists_fields_eq '\n' text
  refine ⟨earlier,last,pieces,?_⟩
  have noFeed : lineFeed ∉ encode (String.ofList last) := by
    rw [lineFeed_mem_encode_iff,String.toList_ofList]
    exact within
  have empty : encode (String.ofList last) = [] ↔ last = [] := by
    constructor
    · intro none
      have same : String.ofList last = "" :=
        Option.some.inj ((decode?_encode _).symm.trans ((congrArg decode? none).trans rfl))
      simpa using congrArg String.toList same
    · rintro rfl
      rfl
  rw [whole,encode_append,lines_append (complete_encode earlier),lines_encode earlier inside,
    lines_of_not_mem noFeed,List.map_append]
  simp only [empty]
  split <;> rfl

end CollectorBench.Text
