/-! How a reading ends.
A reading of several parts ends well if each part does, and with the failure of the leftmost part that
fails. -/
namespace CollectorBench

section Except
variable {ε α β γ : Type}

theorem exists_of_bind_eq_ok {read : Except ε α} {next : α → Except ε β} {result : β}
    (given : (read >>= next) = .ok result) : ∃ value, read = .ok value ∧ next value = .ok result := by
  cases read with
  | error failure => cases given
  | ok value => exact ⟨value,rfl,given⟩

theorem map_bind (read : Except ε α) (next : α → Except ε β) (change : β → γ) :
    (read >>= next).map change = read >>= fun value => (next value).map change := by
  cases read <;> rfl

end Except

/-- The leftmost of some items that something holds of. -/
def Leftmost {α : Type} (holds : α → Prop) (items : List α) (item : α) : Prop :=
  ∃ front later, items = front ++ item :: later ∧ holds item ∧ ∀ earlier ∈ front, ¬holds earlier

section Leftmost
variable {α : Type} {holds : α → Prop} {items : List α} {first item : α}

theorem not_leftmost_nil : ¬Leftmost holds [] item := by
  rintro ⟨front,later,shape,-⟩
  cases front <;> cases shape

theorem leftmost_cons_of_holds (held : holds first) :
    Leftmost holds (first :: items) item ↔ item = first := by
  constructor
  · rintro ⟨front,later,shape,-,before⟩
    cases front with
    | nil => exact (List.cons.inj shape).1.symm
    | cons earlier rest =>
      obtain ⟨rfl,-⟩ := List.cons.inj shape
      exact absurd held (before first List.mem_cons_self)
  · rintro rfl
    exact ⟨[],items,rfl,held,List.forall_mem_nil _⟩

theorem leftmost_cons_of_not (free : ¬holds first) :
    Leftmost holds (first :: items) item ↔ Leftmost holds items item := by
  constructor
  · rintro ⟨front,later,shape,held,before⟩
    cases front with
    | nil =>
      obtain ⟨rfl,-⟩ := List.cons.inj shape
      exact absurd held free
    | cons earlier rest =>
      obtain ⟨rfl,rfl⟩ := List.cons.inj shape
      exact ⟨rest,later,rfl,held,fun other member => before other (List.mem_cons_of_mem _ member)⟩
  · rintro ⟨front,later,rfl,held,before⟩
    exact ⟨first :: front,later,rfl,held,List.forall_mem_cons.mpr ⟨free,before⟩⟩

theorem exists_leftmost_iff : (∃ item, Leftmost holds items item) ↔ ∃ item ∈ items, holds item := by
  constructor
  · rintro ⟨item,front,later,rfl,held,-⟩
    exact ⟨item,by simp,held⟩
  · rintro ⟨found,member,held⟩
    induction items with
    | nil => cases member
    | cons first rest ih =>
      by_cases begins : holds first
      · exact ⟨first,(leftmost_cons_of_holds begins).mpr rfl⟩
      · have inside : found ∈ rest := by
          rcases List.mem_cons.mp member with rfl | inside
          · exact absurd held begins
          · exact inside
        obtain ⟨item,leftmost⟩ := ih inside
        exact ⟨item,(leftmost_cons_of_not begins).mpr leftmost⟩

end Leftmost
end CollectorBench
