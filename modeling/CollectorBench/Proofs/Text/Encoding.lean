import CollectorBench.Text.Bytes
import Mathlib.Tactic.SplitIfs

/-! The bytes of a text in UTF-8.
Every text is read back from its bytes, a line feed among them stands for a line feed of the text,
and texts are ordered as their bytes are: the first byte in which two characters differ tells them
apart in the order of their codes. -/
namespace CollectorBench.Text

/-- A text is its characters one after the other, and so are its bytes. -/
theorem encode_eq_flatMap (text : String) :
    encode text = text.toList.flatMap String.utf8EncodeChar := by
  rw [encode,String.toUTF8_eq_toByteArray,← String.utf8Encode_toList,List.utf8Encode,
    List.toList_data_toByteArray]

theorem encode_append (front back : List Char) : encode (String.ofList (front ++ back)) =
    encode (String.ofList front) ++ encode (String.ofList back) := by
  simp only [encode_eq_flatMap,String.toList_ofList,List.flatMap_append]

/-- Reading what was written gives it back. -/
theorem decode?_encode (text : String) : decode? (encode text) = some text := by
  have whole : ByteArray.mk (encode text).toArray = text.toByteArray := by
    rw [encode,String.toUTF8_eq_toByteArray]
  rw [decode?,whole,String.fromUTF8?,dif_pos text.isValidUTF8]
  rfl

private theorem code_lt (c : Char) : c.val.toNat < 0x110000 := by
  rcases c.valid with low | high
  · omega
  · exact high.2

private theorem lineFeed_mem_utf8EncodeChar {c : Char}
    (member : lineFeed ∈ String.utf8EncodeChar c) : c = '\n' := by
  have code : c.val.toNat = 10 := by
    have bound : c.val.toNat < 0x110000 := code_lt c
    simp only [String.utf8EncodeChar,lineFeed] at member
    split_ifs at member <;>
      simp only [List.mem_cons,List.not_mem_nil,or_false,← UInt8.toNat_inj,UInt8.toNat_ofNat',
        UInt8.reduceToNat] at member <;> omega
  exact Char.toNat_inj.mp code

/-- A line feed in bytes of a text stands for itself. -/
theorem lineFeed_mem_encode_iff (text : String) : lineFeed ∈ encode text ↔ '\n' ∈ text.toList := by
  rw [encode_eq_flatMap,List.mem_flatMap]
  constructor
  · rintro ⟨c,member,inside⟩
    exact lineFeed_mem_utf8EncodeChar inside ▸ member
  · intro member
    exact ⟨'\n',member,by decide⟩

private theorem utf8EncodeChar_lt {c d : Char} (less : c < d) (x y : Bytes) :
    String.utf8EncodeChar c ++ x < String.utf8EncodeChar d ++ y := by
  have less : c.val.toNat < d.val.toNat := less
  have bound := code_lt d
  have digits (n : Nat) : n / 64 / 64 = n / 4096 ∧ n / 4096 / 64 = n / 262144 := by omega
  have first := digits c.val.toNat
  have second := digits d.val.toNat
  simp only [String.utf8EncodeChar]
  split_ifs <;>
    simp only [List.cons_append,List.nil_append,List.cons_lt_cons_iff,UInt8.lt_iff_toNat_lt,
      ← UInt8.toNat_inj,UInt8.toNat_ofNat'] <;>
    simp (disch := omega) only [Nat.mod_eq_of_lt] <;> omega

private theorem flatMap_utf8EncodeChar_lt {x y : List Char} (less : x < y) :
    x.flatMap String.utf8EncodeChar < y.flatMap String.utf8EncodeChar := by
  induction x generalizing y with
  | nil =>
    cases y with
    | nil => exact absurd less (List.lt_irrefl [])
    | cons d later =>
      obtain ⟨byte,rest,shape⟩ := List.exists_cons_of_ne_nil (String.utf8EncodeChar_ne_nil (c := d))
      rw [List.flatMap_nil,List.flatMap_cons,shape]
      exact List.nil_lt_cons _ _
  | cons c x ih =>
    cases y with
    | nil => exact absurd less (List.not_lt_nil _)
    | cons d y =>
      rw [List.flatMap_cons,List.flatMap_cons]
      rcases List.cons_lt_cons_iff.mp less with before | ⟨rfl,later⟩
      · exact utf8EncodeChar_lt before _ _
      · exact List.append_left_lt (ih later)

/-- Texts are ordered as their bytes are. -/
theorem encode_lt_encode_iff (first second : String) :
    encode first < encode second ↔ first < second := by
  rw [encode_eq_flatMap,encode_eq_flatMap,String.lt_iff]
  constructor
  · intro less
    refine Decidable.byContradiction fun notBefore => ?_
    have notBehind : ¬ second.toList < first.toList := fun behind =>
      List.lt_asymm less (flatMap_utf8EncodeChar_lt behind)
    have same := Std.Trichotomous.trichotomous _ _ notBefore notBehind
    exact List.lt_irrefl _ (same ▸ less)
  · exact flatMap_utf8EncodeChar_lt

end CollectorBench.Text
