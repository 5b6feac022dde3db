/-! Cutting text at a separator.
`fields` keeps every piece, so n separators give n + 1 pieces; `cutFirst` and `cutLast` split at
one occurrence and fail where there is none. `occursIn` finds a whole text in another. -/
namespace CollectorBench.Text

/-- The pieces between the occurrences of a separator; there is always at least one. -/
def fields (separator : Char) : List Char → List (List Char)
  | [] => [[]]
  | c :: rest =>
    if c = separator then [] :: fields separator rest
    else match fields separator rest with
      | [] => [[c]]
      | piece :: pieces => (c :: piece) :: pieces

def cutFirst (separator : Char) : List Char → Option (List Char × List Char)
  | [] => none
  | c :: rest =>
    if c = separator then some ([],rest)
    else (cutFirst separator rest).map fun (before,after) => (c :: before,after)

def cutLast (separator : Char) (text : List Char) : Option (List Char × List Char) :=
  (cutFirst separator text.reverse).map fun (after,before) => (before.reverse,after.reverse)

def after? (beginning : List Char) (text : List Char) : Option (List Char) :=
  if beginning.isPrefixOf text then some (text.drop beginning.length) else none

def occursIn (part : List Char) : List Char → Bool
  | [] => part.isEmpty
  | c :: rest => part.isPrefixOf (c :: rest) || occursIn part rest

theorem occursIn_iff (part text : List Char) : occursIn part text = true ↔ part <:+: text := by
  induction text with
  | nil => simp [occursIn]
  | cons c rest ih => simp [occursIn,ih,List.infix_cons_iff]

theorem fields_ne_nil (separator : Char) (text : List Char) : fields separator text ≠ [] := by
  cases text with
  | nil => simp [fields]
  | cons c rest =>
    simp only [fields]
    split
    · simp
    · split <;> simp

theorem length_fields (separator : Char) (text : List Char) :
    (fields separator text).length = text.count separator + 1 := by
  induction text with
  | nil => rfl
  | cons c rest ih =>
    simp only [fields]
    split
    · next same => simp [same,ih]
    · next differs =>
      have some := fields_ne_nil separator rest
      split
      · next none => exact absurd none some
      · next piece pieces shape =>
        rw [shape] at ih
        rw [List.count_cons_of_ne differs]
        simpa using ih

end CollectorBench.Text
