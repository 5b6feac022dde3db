import CollectorBench.Synthetic.Keystream
/-! Drawing numbers from the stream.
A draw takes words from the stream, from a position on, and leaves a later position. A number below
a bound is the upper half of the product of the bound and a word; words that would make some numbers
likelier than others are passed over. -/
namespace CollectorBench

/-- A computation that takes words from the stream. It gives nothing where it would not end, which is
where it looks for an acceptable word and there is none. -/
abbrev Draw (α : Type) := StateT Nat Option α

namespace Draw

def wordCount : Nat :=
  0x10000000000000000

/-- The largest lower half of a product that is acceptable for a bound. -/
def zone (bound : Nat) : Nat :=
  (bound <<< (63 - Nat.log2 bound)) - 1

def accepted? (bound : Nat) (word : UInt64) : Option Nat :=
  let product := word.toNat * bound
  if product % wordCount ≤ zone bound then some (product / wordCount) else none

def search (key : StreamKey) (bound position : Nat) : Nat → Option (Nat × Nat)
  | 0 => none
  | attempts + 1 =>
    match accepted? bound (Keystream.word key position) with
    | some number => some (number,position + 1)
    | none => search key bound (position + 1) attempts

/-- A number below a bound. After a whole round of the stream its words repeat, so a search that has
passed over that many would not end. -/
def below (key : StreamKey) (bound : Nat) : Draw Nat :=
  fun position => search key bound position Keystream.period

def range (key : StreamKey) (low high : Nat) : Draw Nat := do
  let number ← below key (high - low)
  pure (low + number)

theorem accepted?_lt {bound number : Nat} {word : UInt64}
    (given : accepted? bound word = some number) : number < bound ∨ bound = 0 := by
  simp only [accepted?,Option.ite_none_right_eq_some,Option.some.injEq] at given
  obtain ⟨_,rfl⟩ := given
  rcases Nat.eq_zero_or_pos bound with zero | positive
  · exact Or.inr zero
  · refine Or.inl (Nat.div_lt_of_lt_mul ?_)
    exact Nat.mul_lt_mul_of_pos_right word.toNat_lt positive

end Draw
end CollectorBench
