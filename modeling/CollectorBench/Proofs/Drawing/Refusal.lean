import CollectorBench.Drawing.Surface

/-! Drawings that a surface takes, and those that it refuses.
A drawing is carried out whole if the surface takes every call of it. Otherwise the calls in front of the
first one that is refused are carried out, and none behind it. -/
namespace CollectorBench

namespace RememberingSurface

/-- A surface that has taken some calls takes all calls of a drawing, each after the ones before it. -/
def Takes (surface : RememberingSurface) (taken : List Call) : List Stroke → Prop
  | [] => True
  | stroke :: later =>
    surface taken stroke.call = none ∧ Takes surface (stroke.call :: taken) later

/-- A surface that has taken some calls takes the first ones of a drawing and refuses the next one. -/
structure Refuses (surface : RememberingSurface) (taken : List Call) (strokes before : List Stroke)
    (refused : Stroke) (reason : String) : Prop where
  split : ∃ later, strokes = before ++ refused :: later
  takes : surface.Takes taken before
  answer : surface ((before.map Stroke.call).reverse ++ taken) refused.call = some reason

variable {surface : RememberingSurface} {taken : List Call} {strokes before : List Stroke}
  {refused : Stroke} {reason : String}

theorem takes_of_willing (willing : ∀ taken call, surface taken call = none)
    (strokes : List Stroke) : surface.Takes taken strokes := by
  induction strokes generalizing taken with
  | nil => trivial
  | cons stroke later ih => exact ⟨willing taken stroke.call,ih⟩

theorem perform_of_takes (takes : surface.Takes taken strokes) :
    perform surface taken strokes = (strokes,.ok ()) := by
  induction strokes generalizing taken with
  | nil => rfl
  | cons stroke later ih =>
    obtain ⟨own,others⟩ := takes
    simp only [perform,own,ih others]

theorem perform_of_refuses (refuses : surface.Refuses taken strokes before refused reason) :
    perform surface taken strokes = (before,.error (refusal reason)) := by
  obtain ⟨⟨later,rfl⟩,takes,answer⟩ := refuses
  induction before generalizing taken with
  | nil =>
    rw [List.map_nil,List.reverse_nil,List.nil_append] at answer
    simp only [List.nil_append,perform,answer]
  | cons stroke before ih =>
    obtain ⟨own,others⟩ := takes
    have behind := ih others (by simpa using answer)
    simp only [List.cons_append,perform,own,behind]

theorem takes_or_refuses (surface : RememberingSurface) (taken : List Call) (strokes : List Stroke) :
    surface.Takes taken strokes ∨
      ∃ before refused reason, surface.Refuses taken strokes before refused reason := by
  induction strokes generalizing taken with
  | nil => exact .inl trivial
  | cons stroke later ih =>
    cases answer : surface taken stroke.call with
    | some reason => exact .inr ⟨[],stroke,reason,⟨later,rfl⟩,trivial,by simpa using answer⟩
    | none =>
      rcases ih (stroke.call :: taken) with takes | ⟨before,refused,reason,⟨behind,rfl⟩,takes,refuses⟩
      · exact .inl ⟨answer,takes⟩
      · exact .inr ⟨stroke :: before,refused,reason,⟨behind,rfl⟩,⟨answer,takes⟩,by simpa using refuses⟩

end RememberingSurface
end CollectorBench
