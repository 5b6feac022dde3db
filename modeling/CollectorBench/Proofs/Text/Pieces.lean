import CollectorBench.Text.Blank
import CollectorBench.Text.Cut

/-! Pieces of joined text.
Cutting at a separator that stands in no piece undoes joining with it, and a text without blanks at
its ends is what is left of it by trimming. -/
namespace CollectorBench.Text

theorem fields_of_not_mem {separator : Char} {piece : List Char} (inside : separator ∉ piece) :
    fields separator piece = [piece] := by
  induction piece with
  | nil => rfl
  | cons c rest ih =>
    have differs : c ≠ separator := fun same => inside (by simp [same])
    have later := ih fun member => inside (by simp [member])
    simp [fields,differs,later]

theorem fields_append_separator (separator : Char) (front back : List Char) :
    fields separator (front ++ separator :: back) =
      fields separator front ++ fields separator back := by
  induction front with
  | nil => simp [fields]
  | cons c rest ih =>
    by_cases same : c = separator
    · simp [fields,same,ih]
    · obtain ⟨piece,pieces,shape⟩ := List.exists_cons_of_ne_nil (fields_ne_nil separator rest)
      rw [shape] at ih
      simp [fields,same,shape,ih]

theorem fields_flatMap_append {separator : Char} {pieces : List (List Char)}
    (inside : ∀ piece ∈ pieces, separator ∉ piece) (back : List Char) :
    fields separator ((pieces.flatMap fun piece => piece ++ [separator]) ++ back) =
      pieces ++ fields separator back := by
  induction pieces with
  | nil => rfl
  | cons piece later ih =>
    have behind := ih fun other member => inside other (List.mem_cons_of_mem _ member)
    rw [List.flatMap_cons,List.append_assoc,List.append_assoc,List.singleton_append,
      fields_append_separator,fields_of_not_mem (inside piece List.mem_cons_self),behind]
    rfl

/-- What holds no separator lengthens the last piece. -/
theorem fields_append_of_not_mem {separator : Char} {ending : List Char}
    (inside : separator ∉ ending) (front : List Char) :
    ∃ earlier last, fields separator (front ++ ending) = earlier ++ [last ++ ending] := by
  induction front with
  | nil => exact ⟨[],[],by simp [fields_of_not_mem inside]⟩
  | cons c rest ih =>
    obtain ⟨earlier,last,shape⟩ := ih
    by_cases same : c = separator
    · exact ⟨[] :: earlier,last,by simp [fields,same,shape]⟩
    · cases earlier with
      | nil => exact ⟨[],c :: last,by simp [fields,same,shape]⟩
      | cons piece pieces => exact ⟨(c :: piece) :: pieces,last,by simp [fields,same,shape]⟩

theorem fields_intercalate (separator : Char) (first : List Char) (later : List (List Char))
    (inside : ∀ piece ∈ first :: later, separator ∉ piece) :
    fields separator ([separator].intercalate (first :: later)) = first :: later := by
  induction later generalizing first with
  | nil =>
    rw [List.intercalate_singleton]
    exact fields_of_not_mem (inside first (by simp))
  | cons second later ih =>
    rw [List.intercalate_cons_cons,List.append_assoc,List.singleton_append,
      fields_append_separator,fields_of_not_mem (inside first (by simp)),
      ih second fun piece member => inside piece (by simp [List.mem_cons.mp member])]
    rfl

/-- A text is made of its pieces, each but the last with a separator behind it. -/
theorem exists_fields_eq (separator : Char) (text : List Char) : ∃ earlier last,
    fields separator text = earlier ++ [last] ∧
      text = (earlier.flatMap fun piece => piece ++ [separator]) ++ last ∧
      (∀ piece ∈ earlier, separator ∉ piece) ∧ separator ∉ last := by
  induction text with
  | nil => exact ⟨[],[],rfl,rfl,by simp,by simp⟩
  | cons c rest ih =>
    obtain ⟨earlier,last,pieces,whole,inside,within⟩ := ih
    by_cases same : c = separator
    · refine ⟨[] :: earlier,last,by simp [fields,same,pieces],?_,by simpa using inside,within⟩
      rw [same]
      simpa using whole
    · cases earlier with
      | nil =>
        refine ⟨[],c :: last,by simp [fields,same,pieces],?_,by simp,?_⟩
        · simpa using whole
        · simpa [Ne.symm same] using within
      | cons first later =>
        refine ⟨(c :: first) :: later,last,by simp [fields,same,pieces],?_,?_,within⟩
        · simpa using whole
        · simpa [Ne.symm same] using inside

/-- A text and the pieces that a separator divides it into. -/
structure Divided (separator : Char) (text : List Char) (pieces : List (List Char)) : Prop where
  some : pieces ≠ []
  free : ∀ piece ∈ pieces, separator ∉ piece
  joined : text = [separator].intercalate pieces

theorem intercalate_concat (separator : Char) (earlier : List (List Char)) (last : List Char) :
    [separator].intercalate (earlier ++ [last]) =
      (earlier.flatMap fun piece => piece ++ [separator]) ++ last := by
  induction earlier with
  | nil => simp
  | cons first later ih =>
    obtain ⟨second,rest,shape⟩ := List.exists_cons_of_ne_nil (List.concat_ne_nil last later)
    rw [List.cons_append,shape,List.intercalate_cons_cons,← shape,ih,List.flatMap_cons,
      ← List.append_assoc]

/-- A text can be divided in one way only. -/
theorem divided_iff {separator : Char} {text : List Char} {pieces : List (List Char)} :
    Divided separator text pieces ↔ fields separator text = pieces := by
  constructor
  · rintro ⟨some,free,rfl⟩
    obtain ⟨first,later,rfl⟩ := List.exists_cons_of_ne_nil some
    exact fields_intercalate separator first later free
  · rintro rfl
    obtain ⟨earlier,last,pieces,whole,inside,within⟩ := exists_fields_eq separator text
    refine ⟨fields_ne_nil separator text,?_,?_⟩
    · rw [pieces]
      exact List.forall_mem_append.mpr ⟨inside,List.forall_mem_singleton.mpr within⟩
    · rw [pieces,intercalate_concat]
      exact whole

theorem mem_intercalate {separator c : Char} {pieces : List (List Char)}
    (member : c ∈ [separator].intercalate pieces) : c = separator ∨ ∃ piece ∈ pieces, c ∈ piece := by
  induction pieces with
  | nil => simp at member
  | cons first later ih =>
    cases later with
    | nil =>
      rw [List.intercalate_singleton] at member
      exact .inr ⟨first,by simp,member⟩
    | cons second later =>
      rw [List.intercalate_cons_cons,List.append_assoc,List.mem_append,List.singleton_append,
        List.mem_cons] at member
      rcases member with inside | same | behind
      · exact .inr ⟨first,by simp,inside⟩
      · exact .inl same
      · rcases ih behind with same | ⟨piece,among,inside⟩
        · exact .inl same
        · exact .inr ⟨piece,List.mem_cons_of_mem _ among,inside⟩

theorem cutFirst_append {separator : Char} {before : List Char} (inside : separator ∉ before)
    (behind : List Char) :
    cutFirst separator (before ++ separator :: behind) = some (before,behind) := by
  induction before with
  | nil => simp [cutFirst]
  | cons c rest ih =>
    have differs : c ≠ separator := fun same => inside (by simp [same])
    have later := ih fun member => inside (by simp [member])
    simp [cutFirst,differs,later]

private theorem eq_of_cutFirst {separator : Char} {text before behind : List Char}
    (found : cutFirst separator text = some (before,behind)) :
    text = before ++ separator :: behind := by
  induction text generalizing before behind with
  | nil => simp [cutFirst] at found
  | cons c rest ih =>
    by_cases same : c = separator
    · simp only [cutFirst,if_pos same,Option.some.injEq,Prod.mk.injEq] at found
      obtain ⟨rfl,rfl⟩ := found
      rw [same,List.nil_append]
    · simp only [cutFirst,if_neg same,Option.map_eq_some_iff,Prod.exists,Prod.mk.injEq] at found
      obtain ⟨front,back,later,rfl,rfl⟩ := found
      rw [ih later,List.cons_append]

theorem cutFirst_eq_some_iff {separator : Char} {text before behind : List Char} :
    cutFirst separator text = some (before,behind) ↔
      separator ∉ before ∧ text = before ++ separator :: behind := by
  constructor
  · intro found
    refine ⟨?_,eq_of_cutFirst found⟩
    induction text generalizing before behind with
    | nil => cases found
    | cons c rest ih =>
      by_cases same : c = separator
      · simp only [cutFirst,if_pos same,Option.some.injEq,Prod.mk.injEq] at found
        obtain ⟨rfl,-⟩ := found
        exact List.not_mem_nil
      · simp only [cutFirst,if_neg same,Option.map_eq_some_iff,Prod.exists,Prod.mk.injEq] at found
        obtain ⟨front,back,later,rfl,rfl⟩ := found
        exact List.not_mem_cons_of_ne_of_not_mem (Ne.symm same) (ih later)
  · rintro ⟨inside,rfl⟩
    exact cutFirst_append inside behind

theorem cutLast_append {separator : Char} {behind : List Char} (inside : separator ∉ behind)
    (before : List Char) :
    cutLast separator (before ++ separator :: behind) = some (before,behind) := by
  have reversed : (before ++ separator :: behind).reverse =
      behind.reverse ++ separator :: before.reverse := by simp
  rw [cutLast,reversed,cutFirst_append (by simpa using inside)]
  simp

theorem eq_of_cutLast {separator : Char} {text before behind : List Char}
    (found : cutLast separator text = some (before,behind)) :
    text = before ++ separator :: behind := by
  simp only [cutLast,Option.map_eq_some_iff,Prod.exists,Prod.mk.injEq] at found
  obtain ⟨back,front,cut,rfl,rfl⟩ := found
  have turned := congrArg List.reverse (eq_of_cutFirst cut)
  rw [List.reverse_reverse] at turned
  simpa using turned

private theorem dropWhile_isBlank {text : List Char}
    (visible : ∀ c, text.head? = some c → isBlank c = false) :
    text.dropWhile isBlank = text := by
  cases text with
  | nil => rfl
  | cons c rest => exact trimStart_cons_of_not_blank (visible c rfl) rest

/-- Trimming leaves a text alone that neither begins nor ends with a blank. -/
theorem trim_eq_self {text : List Char} (first : ∀ c, text.head? = some c → isBlank c = false)
    (last : ∀ c, text.getLast? = some c → isBlank c = false) : trim text = text := by
  have front : trimStart text = text := dropWhile_isBlank first
  have back : text.reverse.dropWhile isBlank = text.reverse :=
    dropWhile_isBlank fun c found => last c (by rwa [List.head?_reverse] at found)
  rw [trim,front,trimEnd,back,List.reverse_reverse]

/-- Blanks in front of a text and behind it do not outlast trimming. -/
theorem trim_padded {before after : List Char} (front : ∀ c ∈ before, isBlank c = true)
    (back : ∀ c ∈ after, isBlank c = true) (text : List Char) :
    trim (before ++ text ++ after) = trim text := by
  have ending (inner : List Char) : trimEnd (inner ++ after) = trimEnd inner := by
    rw [trimEnd,List.reverse_append,List.dropWhile_append_of_pos (by simpa using back),trimEnd]
  have beginning : trimStart (before ++ text ++ after) = trimStart (text ++ after) := by
    rw [List.append_assoc,trimStart,List.dropWhile_append_of_pos front,trimStart]
  rw [trim,beginning,trimStart,List.dropWhile_append]
  split
  · next empty =>
    have nothing : text.dropWhile isBlank = [] := List.isEmpty_iff.mp empty
    have blank : after.dropWhile isBlank = [] := by
      rw [← List.append_nil after,List.dropWhile_append_of_pos back,List.dropWhile_nil]
    rw [blank,trim,trimStart,nothing]
  · rw [ending,trim,trimStart]

theorem trim_of_visible {text : List Char} (visible : ∀ c ∈ text, isBlank c = false) :
    trim text = text :=
  trim_eq_self (fun c found => visible c (List.mem_of_head? found))
    (fun c found => visible c (List.mem_of_getLast? found))

end CollectorBench.Text
