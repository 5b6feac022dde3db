import CollectorBench.Text.Column
import CollectorBench.Proofs.Text.Pieces

/-! Words in columns.
Texts in columns are the words of their line if a space is left behind each. One that fills its column
goes on in the next column and is one word with the text there. -/
namespace CollectorBench.Text

/-- The pieces between spaces that are not empty. -/
def words (text : List Char) : List (List Char) :=
  (fields ' ' text).filter (· ≠ [])

/-- A text that is read as one word. -/
structure IsWord (text : List Char) : Prop where
  filled : text ≠ []
  noSpace : ' ' ∉ text

theorem IsWord.words_eq {text : List Char} (word : IsWord text) : words text = [text] := by
  simp [words,fields_of_not_mem word.noSpace,word.filled]

theorem words_append_space (front back : List Char) :
    words (front ++ ' ' :: back) = words front ++ words back := by
  rw [words,fields_append_separator,List.filter_append]
  rfl

theorem words_spaces_append (count : Nat) (text : List Char) :
    words (List.replicate count ' ' ++ text) = words text := by
  induction count with
  | zero => rfl
  | succ count ih =>
    rw [List.replicate_succ,List.cons_append]
    exact (words_append_space [] _).trans ih

theorem fields_of_not_mem_append {separator : Char} {beginning : List Char}
    (inside : separator ∉ beginning) (back : List Char) :
    ∃ first later, fields separator back = first :: later ∧
      fields separator (beginning ++ back) = (beginning ++ first) :: later := by
  obtain ⟨first,later,shape⟩ := List.exists_cons_of_ne_nil (fields_ne_nil separator back)
  refine ⟨first,later,shape,?_⟩
  induction beginning with
  | nil => exact shape
  | cons c rest ih =>
    have differs : c ≠ separator := fun same => inside (by simp [same])
    have behind := ih fun member => inside (by simp [member])
    simp [fields,differs,behind]

theorem words_append {text next : List Char} (word : IsWord text) (other : IsWord next)
    (later : List Char) : ∃ first others, words (next ++ later) = first :: others ∧
      words (text ++ (next ++ later)) = (text ++ first) :: others := by
  obtain ⟨ending,pieces,_,whole⟩ := fields_of_not_mem_append other.noSpace later
  obtain ⟨first,behind,inner,outer⟩ := fields_of_not_mem_append word.noSpace (next ++ later)
  obtain ⟨rfl,rfl⟩ : next ++ ending = first ∧ pieces = behind := by simpa [whole] using inner
  refine ⟨next ++ ending,pieces.filter (· ≠ []),?_,?_⟩
  · simp [words,inner,other.filled]
  · simp [words,outer,word.filled]

/-- Texts in columns of given widths, one behind the other. -/
def inColumns (placed : List (Nat × List Char)) : List Char :=
  (placed.map fun (width,text) => column width text).flatten

theorem mem_inColumns {placed : List (Nat × List Char)} {c : Char} (member : c ∈ inColumns placed) :
    c = ' ' ∨ ∃ one ∈ placed, c ∈ one.2 := by
  obtain ⟨shown,among,inside⟩ := List.mem_flatten.mp member
  obtain ⟨one,present,rfl⟩ := List.mem_map.mp among
  rcases List.mem_append.mp inside with text | space
  · exact .inr ⟨one,present,text⟩
  · exact .inl (List.eq_of_mem_replicate space)

theorem mem_inColumns_of_mem {placed : List (Nat × List Char)} {one : Nat × List Char}
    (present : one ∈ placed) {c : Char} (member : c ∈ one.2) : c ∈ inColumns placed :=
  List.mem_flatten.mpr ⟨_,List.mem_map_of_mem present,List.mem_append_left _ member⟩

/-- Texts as words of their line: one that fills its column is joined to the next. -/
def merged : List (Nat × List Char) → List (List Char)
  | [] => []
  | (width,text) :: later =>
    if text.length < width then text :: merged later
    else match merged later with
      | [] => [text]
      | next :: others => (text ++ next) :: others

/-- Each text but the last is shorter than its column. -/
def Spaced (placed : List (Nat × List Char)) : Prop :=
  ∀ one ∈ placed.dropLast, one.2.length < one.1

instance (placed : List (Nat × List Char)) : Decidable (Spaced placed) :=
  inferInstanceAs (Decidable (∀ _ ∈ placed.dropLast, _))

theorem spaced_cons_cons (one next : Nat × List Char) (others : List (Nat × List Char)) :
    Spaced (one :: next :: others) ↔ one.2.length < one.1 ∧ Spaced (next :: others) := by
  simp [Spaced]

private theorem words_column_append {width : Nat} {text : List Char} (word : IsWord text)
    (short : text.length < width) (later : List Char) :
    words (column width text ++ later) = text :: words later := by
  obtain ⟨gap,room⟩ := Nat.exists_eq_add_of_lt short
  have spaces : width - text.length = gap + 1 := by omega
  rw [column,spaces,List.replicate_succ,List.append_assoc,List.cons_append,words_append_space,
    word.words_eq,words_spaces_append]
  rfl

theorem words_inColumns {placed : List (Nat × List Char)} (word : ∀ one ∈ placed, IsWord one.2) :
    words (inColumns placed) = merged placed := by
  induction placed with
  | nil => rfl
  | cons one later ih =>
    obtain ⟨width,text⟩ := one
    have first := word (width,text) List.mem_cons_self
    have behind := ih fun other member => word other (List.mem_cons_of_mem _ member)
    have shape : inColumns ((width,text) :: later) = column width text ++ inColumns later := rfl
    by_cases short : text.length < width
    · rw [shape,words_column_append first short,behind,merged,if_pos short]
    · -- nothing stands between this text and the next one
      rw [shape,column_of_wide (Nat.le_of_not_lt short),merged,if_neg short]
      cases later with
      | nil => simpa [inColumns,merged] using first.words_eq
      | cons next others =>
        have second := word next (by simp)
        obtain ⟨start,rest,inner,outer⟩ := words_append first second
          (List.replicate (next.1 - next.2.length) ' ' ++ inColumns others)
        have whole : inColumns (next :: others) =
            next.2 ++ (List.replicate (next.1 - next.2.length) ' ' ++ inColumns others) := by
          rw [← List.append_assoc]
          rfl
        rw [whole,outer,← behind,whole,inner]

theorem length_merged_le (placed : List (Nat × List Char)) :
    (merged placed).length ≤ placed.length := by
  induction placed with
  | nil => exact Nat.le_refl 0
  | cons one later ih =>
    unfold merged
    split
    · exact Nat.succ_le_succ ih
    · split
      · simp
      · next next others shape =>
        rw [shape] at ih
        exact Nat.le_succ_of_le ih

theorem length_merged_eq_iff (placed : List (Nat × List Char)) :
    (merged placed).length = placed.length ↔ Spaced placed := by
  induction placed with
  | nil => exact iff_of_true rfl (by simp [Spaced])
  | cons one later ih =>
    obtain ⟨width,text⟩ := one
    cases later with
    | nil => exact iff_of_true (by simp [merged]) (by simp [Spaced])
    | cons next others =>
      rw [spaced_cons_cons,← ih]
      have most := length_merged_le (next :: others)
      rw [merged]
      split
      · next short => simp [short]
      · next long =>
        refine iff_of_false ?_ fun both => long both.1
        split
        · simp
        · next first behind shape =>
          rw [shape] at most
          simp only [List.length_cons] at most ⊢
          omega

theorem merged_of_spaced {placed : List (Nat × List Char)} (spaced : Spaced placed) :
    merged placed = placed.map (·.2) := by
  induction placed with
  | nil => rfl
  | cons one later ih =>
    obtain ⟨width,text⟩ := one
    cases later with
    | nil => simp [merged]
    | cons next others =>
      obtain ⟨short,behind⟩ := (spaced_cons_cons ..).mp spaced
      rw [merged,if_pos short,ih behind]
      rfl

end CollectorBench.Text
